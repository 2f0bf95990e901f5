/-
  KernelDispatch.Proofs.Timeline.Runs

  The timelines of a run.

  A recorder is told of a flush's start before anything else is said of the flush
  (`orderly_of_run`), and once the flush is over none of its records starts any more
  (`started_later`). So as far as started records go, the timeline of a flush that has
  been closed tells all of its history (`timeline_of_run`). The audit of the timeline is
  then about the history: a record is found to have started early exactly if it looks
  early by the events before it (`mem_earlyStarts_of_run`).
-/
import KernelDispatch.Proofs.Flush.Consistency
import KernelDispatch.Proofs.Timeline.Audit
import KernelDispatch.Proofs.Timeline.Recording

namespace KernelDispatch

variable {C : Type} {cfg : Settings} {env : Environment C}

/-- An element of a filtered list comes from an element of the list. -/
theorem exists_of_filterMap_eq {α β : Type} {g : α → Option β} {xs : List α} {before after : List β}
    {y : β} (h : xs.filterMap g = before ++ y :: after) :
    ∃ past x later, xs = past ++ x :: later ∧ g x = some y ∧ past.filterMap g = before := by
  obtain ⟨past, rest, rfl, h_past, h_rest⟩ := List.filterMap_eq_append_iff.1 h
  obtain ⟨skipped, x, later, rfl, h_skipped, h_x, -⟩ := List.filterMap_eq_cons_iff.1 h_rest
  refine ⟨past ++ skipped, x, later, by simp, h_x, ?_⟩
  rw [List.filterMap_append, h_past, List.filterMap_eq_nil_iff.2 h_skipped, List.append_nil]

/-- What stands in an appended list but not in its second part stands in the first. -/
theorem exists_of_append_eq {α : Type} {xs ys before after : List α} {x : α}
    (h : xs ++ ys = before ++ x :: after) (h_x : x ∉ ys) :
    ∃ rest, xs = before ++ x :: rest := by
  rcases List.append_eq_append_iff.1 h with ⟨skipped, -, rfl⟩ | ⟨rest, rfl, h_rest⟩
  · exact absurd (by simp) h_x
  · cases rest with
    | nil =>
      rw [← List.nil_append ys, ← h_rest] at h_x
      exact absurd (List.mem_cons_self ..) h_x
    | cons y rest =>
      obtain ⟨rfl, -⟩ := List.cons.inj h_rest
      exact ⟨rest, rfl⟩

/-! ## What a recorder is told -/

namespace Event

/-- What a recorder is told by some events. -/
def recorderOps (es : List (Stamped C)) : List (Moment × RecorderOp) :=
  es.filterMap fun e => e.2.recorderOp?.map fun op => (e.1, op)

/-- The mark that an event leaves in the timeline of a flush. -/
def markIn? (n : Nat) (e : Event C) : Option Mark :=
  e.recorderOp?.bind (RecorderOp.markIn? n)

/-- The marks that some events leave in the timeline of a flush. -/
def marksOf (n : Nat) (es : List (Stamped C)) : List TimedMark :=
  es.filterMap fun e => (e.2.markIn? n).map (TimedMark.mk e.1)

theorem marksIn_recorderOps (n : Nat) (es : List (Stamped C)) :
    marksIn n (recorderOps es) = marksOf n es := by
  simp only [marksIn, recorderOps, marksOf, List.filterMap_filterMap, markIn?]
  congr 1
  funext e
  cases e.2.recorderOp? <;> rfl

theorem marksOf_append (n : Nat) (es fs : List (Stamped C)) :
    marksOf n (es ++ fs) = marksOf n es ++ marksOf n fs :=
  List.filterMap_append

variable {n seq : Nat} {e : Event C} {digest : Digest}

theorem began_of_recorderOp? (h : e.recorderOp? = some (.start n)) :
    ∃ batch, e = .began n batch := by
  cases e with
  | began flush batch =>
    cases h
    exact ⟨batch, rfl⟩
  | _ => cases h

/-- What tells a recorder of a flush is its beginning. -/
theorem began_of_mem_recorderOps {es : List (Stamped C)} {time : Moment}
    (h : (time, .start n) ∈ recorderOps es) : ∃ batch, .began n batch ∈ history es := by
  obtain ⟨⟨moment, e⟩, h_e, h_told⟩ := List.mem_filterMap.1 h
  obtain ⟨op, h_op, h_start⟩ := Option.map_eq_some_iff.1 h_told
  obtain ⟨rfl, rfl⟩ := Prod.mk.inj h_start
  obtain ⟨batch, rfl⟩ := began_of_recorderOp? h_op
  exact ⟨batch, List.mem_map_of_mem h_e⟩

theorem ended_of_recorderOp? (h : e.recorderOp? = some .finish) :
    ∃ n released, e = .ended n released := by
  cases e with
  | ended n released => exact ⟨n, released, rfl⟩
  | _ => cases h

theorem flush?_of_markIn? {mark : Mark} (h : e.markIn? n = some mark) : e.flush? = some n := by
  cases e with
  | codegenCalled | codegenEnded | recordStarted | recordEnded =>
    obtain ⟨rfl, -⟩ := Option.ite_none_right_eq_some.1 h
    rfl
  | _ => cases h

theorem markIn?_eq_buildStarted : e.markIn? n = some (.buildStarted digest) ↔
    ∃ worker key call, e = .codegenCalled n worker key call ∧ key.digest = digest := by
  constructor
  · intro h
    cases e with
    | codegenCalled flush worker key call =>
      obtain ⟨rfl, h_mark⟩ := Option.ite_none_right_eq_some.1 h
      exact ⟨worker, key, call, rfl, Mark.buildStarted.inj (Option.some.inj h_mark)⟩
    | codegenEnded | recordStarted | recordEnded =>
      cases (Option.ite_none_right_eq_some.1 h).2
    | _ => cases h
  · rintro ⟨worker, key, call, rfl, rfl⟩
    exact if_pos rfl

theorem markIn?_eq_buildEnded {ok : Bool} : e.markIn? n = some (.buildEnded digest ok) ↔
    ∃ key elapsed panic, e = .codegenEnded n key elapsed ok panic ∧ key.digest = digest := by
  constructor
  · intro h
    cases e with
    | codegenEnded flush key elapsed ok' panic =>
      obtain ⟨rfl, h_mark⟩ := Option.ite_none_right_eq_some.1 h
      obtain ⟨rfl, rfl⟩ := Mark.buildEnded.inj (Option.some.inj h_mark)
      exact ⟨key, elapsed, panic, rfl, rfl⟩
    | codegenCalled | recordStarted | recordEnded =>
      cases (Option.ite_none_right_eq_some.1 h).2
    | _ => cases h
  · rintro ⟨key, elapsed, panic, rfl, rfl⟩
    exact if_pos rfl

theorem markIn?_eq_recordStarted : e.markIn? n = some (.recordStarted seq digest) ↔
    ∃ key, e = .recordStarted n seq key ∧ key.digest = digest := by
  constructor
  · intro h
    cases e with
    | recordStarted flush seq' key =>
      obtain ⟨rfl, h_mark⟩ := Option.ite_none_right_eq_some.1 h
      obtain ⟨rfl, rfl⟩ := Mark.recordStarted.inj (Option.some.inj h_mark)
      exact ⟨key, rfl, rfl⟩
    | codegenCalled | codegenEnded | recordEnded =>
      cases (Option.ite_none_right_eq_some.1 h).2
    | _ => cases h
  · rintro ⟨key, rfl, rfl⟩
    exact if_pos rfl

end Event

open Event

/-! ## The audit of a history -/

/-- By these events, a record of flush `n` for the task `key` that starts next looks early: the
flush has called the code generator for a task with the same digest, and no such call has come to
code. -/
structure LooksEarly (n : Nat) (key : TaskId) (past : List (Event C)) : Prop where
  called : ∃ worker k call, .codegenCalled n worker k call ∈ past ∧ k.digest = key.digest
  unbuilt : ∀ k elapsed panic, .codegenEnded n k elapsed true panic ∈ past →
    k.digest ≠ key.digest

theorem mem_marksOf {n : Nat} {es : List (Stamped C)} {x : TimedMark} :
    x ∈ marksOf n es ↔ ∃ e, (x.time, e) ∈ es ∧ e.markIn? n = some x.mark := by
  constructor
  · intro h
    obtain ⟨⟨time, e⟩, h_e, h_x⟩ := List.mem_filterMap.1 h
    obtain ⟨mark, h_mark, rfl⟩ := Option.map_eq_some_iff.1 h_x
    exact ⟨e, h_e, h_mark⟩
  · rintro ⟨e, h_e, h_mark⟩
    exact List.mem_filterMap.2 ⟨_, h_e, Option.map_eq_some_iff.2 ⟨x.mark, h_mark, rfl⟩⟩

/-- Between the marks of some events a record looks as it does by these events, if it starts after
all of them. -/
theorem premature_marksOf_iff {n : Nat} {key : TaskId} {past : List (Stamped C)} {time : Moment}
    (h_time : ∀ e ∈ past, e.1 ≤ time) :
    Timeline.Premature (marksOf n past) time key.digest ↔ LooksEarly n key (history past) := by
  constructor
  · rintro ⟨⟨x, h_x, h_mark⟩, h_unfinished⟩
    refine ⟨?_, fun k elapsed panic h_e h_digest => ?_⟩
    · obtain ⟨e, h_e, h_started⟩ := mem_marksOf.1 h_x
      rw [h_mark] at h_started
      obtain ⟨worker, k, call, rfl, h_digest⟩ := markIn?_eq_buildStarted.1 h_started
      exact ⟨worker, k, call, List.mem_map_of_mem h_e, h_digest⟩
    · -- A good end would have a moment that is not after the start of the record.
      obtain ⟨⟨moment, _⟩, h_e, rfl⟩ := List.mem_map.1 h_e
      refine Nat.not_lt_of_le (h_time _ h_e)
        (h_unfinished ⟨moment, .buildEnded key.digest true⟩ ?_ rfl)
      exact mem_marksOf.2 ⟨_, h_e, markIn?_eq_buildEnded.2 ⟨k, elapsed, panic, rfl, h_digest⟩⟩
  · rintro ⟨⟨worker, k, call, h_e, h_digest⟩, h_unbuilt⟩
    refine ⟨?_, fun x h_x h_mark => ?_⟩
    · obtain ⟨⟨moment, _⟩, h_e, rfl⟩ := List.mem_map.1 h_e
      refine ⟨⟨moment, .buildStarted key.digest⟩, ?_, rfl⟩
      exact mem_marksOf.2 ⟨_, h_e, markIn?_eq_buildStarted.2 ⟨worker, k, call, rfl, h_digest⟩⟩
    · obtain ⟨e, h_e, h_ended⟩ := mem_marksOf.1 h_x
      rw [h_mark] at h_ended
      obtain ⟨k, elapsed, panic, rfl, h_same⟩ := markIn?_eq_buildEnded.1 h_ended
      exact absurd h_same (h_unbuilt k elapsed panic (List.mem_map_of_mem h_e))

namespace State

variable {s s' t : State C} {m : Move C} {ms : List (Move C)} {fs : List (Event C)}
  {es : List (Stamped C)} {threads : Nat} {now : Moment}

/-! ## Flushes begin, start records, and end -/

theorem Transition.of_began (h_step : Transition cfg env s m s' fs) {n : Nat}
    {batch : List (Record C)} (h_e : Event.began n batch ∈ fs) :
    n = s.flushes + 1 ∧ fs = [.began n batch] := by
  cases h_step with
  | begins =>
    obtain ⟨rfl, rfl⟩ := Event.began.inj (List.mem_singleton.1 h_e)
    exact ⟨rfl, rfl⟩
  | caller _ h_step =>
    cases h_step with
    | schedules | shares | reuses => simp at h_e
    | _ => simp [joinedEvent, endedEvent] at h_e
  | worker _ _ h_step => cases h_step <;> simp at h_e
  | launcher _ h_step => cases h_step <;> simp at h_e
  | _ => simp at h_e

/-- A record starts when the launch thread finds its artifact. -/
theorem Transition.of_recordStarted (h_step : Transition cfg env s m s' fs) {n seq : Nat}
    {key : TaskId} (h_e : Event.recordStarted n seq key ∈ fs) :
    ∃ job rest artifact, s.lane = job :: rest ∧ job.flush = n ∧ job.key = key ∧
      s.store.slot? key = some (.ready artifact) ∧ fs = [.recordStarted n seq key] := by
  have h_loud : (Event.recordStarted (C := C) n seq key).isLaunch = true := rfl
  cases h_step with
  | @launcher job rest _ _ h_lane h_step =>
    cases h_step with
    | @finds since deadline artifact h_phase h_slot =>
      obtain ⟨rfl, rfl, rfl⟩ := Event.recordStarted.inj (List.mem_singleton.1 h_e)
      exact ⟨job, rest, artifact, h_lane, rfl, rfl, h_slot, rfl⟩
    | _ => simp at h_e
  | caller _ h_step => simp [h_step.quiet _ h_e] at h_loud
  | worker _ _ h_step => simp [h_step.quiet _ h_e] at h_loud
  | _ => simp at h_e

theorem Transition.idle_of_ended (h_step : Transition cfg env s m s' fs) {n released : Nat}
    (h_e : Event.ended n released ∈ fs) : s'.current = none ∧ ∀ e ∈ fs, e.isLaunch = false := by
  cases h_step with
  | caller _ h_step =>
    refine ⟨?_, h_step.quiet⟩
    cases h_step with
    | abandons | succeeds | fails => rfl
    | schedules | shares | reuses => simp at h_e
    | _ => simp [joinedEvent] at h_e
  | worker _ _ h_step => cases h_step <;> simp at h_e
  | launcher _ h_step => cases h_step <;> simp at h_e
  | _ => simp at h_e

/-- After a moment between flushes only records of later flushes start. -/
theorem started_later (h_layout : Layout cfg s) (h_idle : s.current = none)
    (h_run : run cfg env s ms = some (t, es)) {n seq : Nat} {key : TaskId}
    (h_e : Event.recordStarted n seq key ∈ history es) : s.flushes < n := by
  have h_later : s.flushes ≤ t.flushes ∧ (∀ f, t.current = some f → s.flushes < f.number) ∧
      ∀ n seq key, Event.recordStarted n seq key ∈ history es → s.flushes < n := by
    refine history_induction (P := fun _ t es => s.flushes ≤ t.flushes ∧
      (∀ f, t.current = some f → s.flushes < f.number) ∧
      ∀ n seq key, Event.recordStarted n seq key ∈ es → s.flushes < n) ?_ ?_ h_run
    · exact ⟨Nat.le_refl _, by simp [h_idle], by simp⟩
    · rintro ms m t es u fs h_prefix - ⟨h_le, h_current, h_started⟩ h_step
      refine ⟨Nat.le_trans h_le h_step.flushes_le, fun f' h_f' => ?_, fun n seq key h_e => ?_⟩
      · rcases h_step.flush_origin h_f' with ⟨-, f, h_f, h_number, -⟩ | ⟨-, -, rfl, -⟩
        · exact h_number ▸ h_current f h_f
        · exact Nat.lt_succ_of_le h_le
      · rcases List.mem_append.1 h_e with h_old | h_new
        · exact h_started n seq key h_old
        · obtain ⟨job, rest, -, h_lane, rfl, -⟩ := h_step.of_recordStarted h_new
          have h_now := h_layout.of_run h_prefix
          obtain ⟨f, h_f⟩ := h_now.exists_flush h_lane
          rw [((h_now.inFlush f h_f).own job (by simp [h_lane])).1]
          exact h_current f h_f
  exact h_later.2.2 n seq key h_e

/-! ## Timelines -/

/-- No flush leaves a mark before the recorder is told of its start. -/
theorem orderly_of_run (h_run : run cfg env (start threads now) ms = some (t, es)) :
    Recorder.Orderly (recorderOps es) := by
  intro ops time n ops' h_ops
  obtain ⟨before, ⟨moment, e⟩, after, rfl, h_e, rfl⟩ := exists_of_filterMap_eq h_ops
  obtain ⟨op, h_op, h_start⟩ := Option.map_eq_some_iff.1 h_e
  obtain ⟨rfl, rfl⟩ := Prod.mk.inj h_start
  obtain ⟨batch, rfl⟩ := began_of_recorderOp? h_op
  obtain ⟨ms₁, s, es₁, m, s', past, later, -, -, h_prefix, -, h_step, -, -, rfl, -⟩ :=
    split_of_run h_run
  obtain ⟨rfl, h_fs⟩ := h_step.of_began (List.mem_append_right _ (List.mem_cons_self ..))
  obtain rfl : past = [] := by
    cases past with
    | nil => rfl
    | cons x past => simp at h_fs
  -- The flush is new, and all events before belong to flushes that have begun.
  have h_dated := (consistent_of_run (rested_start threads now) h_prefix).dated
  change marksIn (s.flushes + 1) (recorderOps (es₁ ++ [])) = []
  rw [List.append_nil, marksIn_recorderOps]
  refine List.filterMap_eq_nil_iff.2 fun e h_e => Option.map_eq_none_iff.2 ?_
  refine Option.eq_none_iff_forall_ne_some.2 fun mark h_mark => ?_
  exact h_dated.ne (List.mem_map_of_mem h_e) (Nat.lt_succ_self _) (flush?_of_markIn? h_mark)

/-- The timeline that was closed last holds the marks of its flush from before some moment, and none
of its records has started since. -/
theorem timeline_of_run (h_run : run cfg env (start threads now) ms = some (t, es)) {tl : Timeline}
    (h_last : (observe {} es).last = some tl) :
    ∃ before after, es = before ++ after ∧ tl.marks = marksOf tl.flush before ∧
      ∀ seq key, Event.recordStarted tl.flush seq key ∉ history after := by
  obtain ⟨ops, time, ops', h_ops, ⟨begun, h_begun⟩, h_marks⟩ :=
    (Recorder.kept_of_orderly (orderly_of_run h_run)).last tl h_last
  obtain ⟨before, ⟨moment, e⟩, after, rfl, h_e, rfl⟩ := exists_of_filterMap_eq h_ops
  obtain ⟨op, h_op, h_finish⟩ := Option.map_eq_some_iff.1 h_e
  obtain ⟨rfl, rfl⟩ := Prod.mk.inj h_finish
  obtain ⟨n, released, rfl⟩ := ended_of_recorderOp? h_op
  refine ⟨before, _, rfl, h_marks.trans (marksIn_recorderOps ..), fun seq key h_started => ?_⟩
  obtain ⟨ms₁, s, es₁, m, s', past, later, ms₂, es₂, h_prefix, h_alive, h_step, h_suffix, -, rfl,
    rfl⟩ := split_of_run h_run
  have h_end : Event.ended n released ∈ past ++ .ended n released :: later :=
    List.mem_append_right _ (List.mem_cons_self ..)
  obtain ⟨h_idle, h_quiet⟩ := h_step.idle_of_ended h_end
  have h_whole := run_concat.2 ⟨s, es₁, _, h_prefix, h_alive, h_step, rfl⟩
  have h_consistent := consistent_of_run (rested_start threads now) h_whole
  rw [history_append, history_stamp] at h_consistent
  -- The flush of the timeline has begun by now, so none of its records starts after its end.
  have h_le : tl.flush ≤ s'.flushes := by
    obtain ⟨batch, h_before⟩ := began_of_mem_recorderOps h_begun
    rw [history_append, history_stamp] at h_before
    refine h_consistent.dated (.began tl.flush batch) ?_ tl.flush rfl
    rw [← List.append_assoc]
    exact List.mem_append_left _ h_before
  change _ ∈ .ended n released :: history (stamp s.now later ++ es₂) at h_started
  rw [history_append, history_stamp, ← List.cons_append] at h_started
  rcases List.mem_append.1 h_started with h_now | h_later
  · have h_loud := h_quiet _ (List.mem_append_right _ h_now)
    simp [Event.isLaunch] at h_loud
  · have h_lt := started_later h_consistent.layout h_idle h_suffix h_later
    omega

/-- The audit of a closed timeline finds the records that look early by the history. -/
theorem mem_earlyStarts_of_run (h_run : run cfg env (start threads now) ms = some (t, es))
    {tl : Timeline} (h_last : (observe {} es).last = some tl) (seq : Nat) :
    seq ∈ tl.earlyStarts ↔ ∃ past key later,
      history es = past ++ .recordStarted tl.flush seq key :: later ∧
        LooksEarly tl.flush key past := by
  obtain ⟨before, after, rfl, h_marks, h_after⟩ := timeline_of_run h_run h_last
  rw [Timeline.mem_earlyStarts_iff, h_marks]
  constructor
  · rintro ⟨marks, x, marks', h_split, digest, h_x, h_premature⟩
    obtain ⟨past, ⟨moment, e⟩, later, rfl, h_e, rfl⟩ := exists_of_filterMap_eq h_split
    obtain ⟨mark, h_mark, rfl⟩ := Option.map_eq_some_iff.1 h_e
    obtain rfl : mark = .recordStarted seq digest := h_x
    obtain ⟨key, rfl, rfl⟩ := markIn?_eq_recordStarted.1 h_mark
    have h_all : past ++ (moment, Event.recordStarted tl.flush seq key) :: later ++ after =
        past ++ (moment, .recordStarted tl.flush seq key) :: (later ++ after) := by simp
    rw [h_all] at h_run ⊢
    refine ⟨history past, key, history (later ++ after), ?_,
      (premature_marksOf_iff (moment_le_of_split h_run)).1 h_premature⟩
    rw [history_append]
    rfl
  · rintro ⟨past, key, later, h_split, h_early⟩
    obtain ⟨past, rest, h_all, rfl, h_rest⟩ := List.map_eq_append_iff.1 h_split
    obtain ⟨⟨moment, e⟩, later, rfl, h_e, rfl⟩ := List.map_eq_cons_iff.1 h_rest
    obtain rfl : e = .recordStarted tl.flush seq key := h_e
    -- The record has started before the timeline was closed.
    obtain ⟨later, rfl⟩ := exists_of_append_eq h_all
      fun h_mem => h_after seq key (List.mem_map_of_mem h_mem)
    rw [h_all] at h_run
    refine ⟨marksOf tl.flush past, ⟨moment, .recordStarted seq key.digest⟩,
      marksOf tl.flush later, ?_, key.digest, rfl,
      (premature_marksOf_iff (moment_le_of_split h_run)).2 h_early⟩
    have h_mark : ((Event.recordStarted tl.flush seq key : Event C).markIn? tl.flush).map
        (TimedMark.mk moment) = some ⟨moment, .recordStarted seq key.digest⟩ :=
      Option.map_eq_some_iff.2 ⟨_, markIn?_eq_recordStarted.2 ⟨key, rfl, rfl⟩, rfl⟩
    rw [marksOf_append]
    exact congrArg (marksOf tl.flush past ++ ·) (List.filterMap_cons_some h_mark)

end State

end KernelDispatch
