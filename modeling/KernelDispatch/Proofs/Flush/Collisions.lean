/-
  KernelDispatch.Proofs.Flush.Collisions

  What a flush tells of the tasks that collide.

  A flush meets its tasks in the order in which it requests them (`SightingChange`), whatever
  the store answers. So at every moment of a call its report, its events and the tallies
  count what has been seen of the tasks requested so far (`Sighted`), and when all have been
  requested, that follows from the texts of the records alone.
-/
import KernelDispatch.Proofs.Content.Sightings
import KernelDispatch.Proofs.Flush.RecentUse
import KernelDispatch.Proofs.Tallies.Reports

namespace KernelDispatch

variable {C : Type} {cfg : Settings} {env : Environment C}

namespace Event

/-- The task that a task is told to collide with. -/
def clashOf? (key : TaskId) : Event C → Option TaskId
  | collided first k => if k = key then some first else none
  | _ => none

/-- Whether an event tells of a collision. -/
def isCollision : Event C → Bool
  | collided .. => true
  | _ => false

end Event

/-- The tasks that a task has been told to collide with. -/
def clashesOf (key : TaskId) (es : List (Event C)) : List TaskId :=
  es.filterMap (Event.clashOf? key)

/-- The different digests of some records. -/
def digestsOf (rs : List (Record C)) : Finset Digest :=
  (rs.map fun r => Digest.ofText r.task).toFinset

theorem clashesOf_append (key : TaskId) (es fs : List (Event C)) :
    clashesOf key (es ++ fs) = clashesOf key es ++ clashesOf key fs :=
  List.filterMap_append

theorem clashesOf_of_quiet (key : TaskId) {fs : List (Event C)}
    (h_quiet : ∀ e ∈ fs, e.isCollision = false) : clashesOf key fs = [] := by
  refine List.filterMap_eq_nil_iff.2 fun e h_e => ?_
  have h_no := h_quiet e h_e
  cases e <;> first | rfl | cases h_no

theorem measured_of_noCollision {fs : List (Event C)}
    (h_quiet : ∀ e ∈ fs, e.isCollision = false) : measured .collisions fs = 0 := by
  refine measured_eq_zero fun e h_e => ?_
  have h_no := h_quiet e h_e
  cases e <;> first | rfl | cases h_no

theorem clashesOf_collided (key k : TaskId) (firsts : List TaskId) :
    clashesOf key (firsts.map fun first => Event.collided (C := C) first k) =
      if key = k then firsts else [] := by
  rw [clashesOf, List.filterMap_map]
  split
  · next h => simp [Event.clashOf?, h]
  · next h => simp [Function.comp_def, Event.clashOf?, Ne.symm h]

theorem textsOf_eq (rs : List (Record C)) : distinctTexts (rs.map Record.key) = textsOf rs := by
  rw [distinctTexts, List.map_map, textsOf]
  rfl

theorem digestsOf_eq (rs : List (Record C)) :
    distinctDigests (rs.map Record.key) = digestsOf rs := by
  rw [distinctDigests, List.map_map, digestsOf]
  rfl

namespace State

variable {s s' s₀ t u : State C} {f f' : Flush C} {m : Move C} {ms : List (Move C)}
  {es : List (Stamped C)} {fs hs : List (Event C)}

/-! ## Meeting the tasks of a flush -/

/-- What a move does to what the flush in progress has seen. -/
inductive SightingChange (s s' : State C) (fs : List (Event C)) : Prop
  /-- Nothing. -/
  | still (h_goesOn : ∀ f', s'.current = some f' → ∃ f, s.current = some f ∧ f'.keys = f.keys ∧
        f'.sightings = f.sightings ∧ f'.report = f.report)
      (h_idle : s'.current = none → s.current = none) (h_quiet : ∀ e ∈ fs, e.isCollision = false)
  /-- A flush begins. -/
  | begins (h_idle : s.current = none) (h_f' : s'.current = some s.firstFlush)
      (h_quiet : ∀ e ∈ fs, e.isCollision = false)
  /-- It meets the task of a record. -/
  | meets {f : Flush C} {r : Record C} {rest : List (Record C)} {answer : Standing} {e : Event C}
      (h_f : s.current = some f) (h_f' : s'.current = some (f.requested r rest answer))
      (h_fs : fs = (f.collision r).map (.collided · r.key) ++ [e]) (h_e : e.isCollision = false)
  /-- The flush is over. -/
  | leaves {f : Flush C} (h_f : s.current = some f) (h_idle : s'.current = none)
      (h_quiet : ∀ e ∈ fs, e.isCollision = false)

theorem SightingChange.of_outline
    (h_outline : s'.current.map Flush.outline = s.current.map Flush.outline)
    (h_quiet : ∀ e ∈ fs, e.isCollision = false) : SightingChange s s' fs := by
  refine .still (fun f' h_f' => ?_) (fun h_idle => ?_) h_quiet
  · obtain ⟨f, h_f, h_same⟩ := exists_flush_of_outline_eq h_outline h_f'
    exact ⟨f, h_f, congrArg (fun g => g.keys) h_same, congrArg (fun g => g.sightings) h_same,
      congrArg (fun g => g.report) h_same⟩
  · rw [h_idle] at h_outline
    exact Option.map_eq_none_iff.1 h_outline.symm

theorem CallerStep.sightingChange (h_f : s.current = some f) (h : CallerStep cfg env s f s' fs) :
    SightingChange s s' fs := by
  cases h with
  | schedules | shares | reuses => exact .meets h_f rfl rfl rfl
  | unwinds | abandons | succeeds | fails =>
    exact .leaves h_f rfl (by simp [Event.isCollision, endedEvent])
  | _ =>
    refine .still (fun f' h_f' => ?_) (fun h_idle => ?_) (by simp [Event.isCollision, joinedEvent])
    · cases h_f'
      exact ⟨f, h_f, rfl, rfl, rfl⟩
    · cases h_idle

theorem Transition.sightingChange (h : Transition cfg env s m s' fs) :
    SightingChange s s' fs := by
  cases h with
  | begins h_idle => exact .begins h_idle rfl (by simp [Event.isCollision])
  | caller h_current h_step => exact h_step.sightingChange h_current
  | worker _ _ h_step =>
    have h_outline := h_step.samePlan.current
    cases h_step <;> exact .of_outline h_outline (by simp [Event.isCollision])
  | launcher _ h_step =>
    have h_outline := h_step.plan.2.2
    cases h_step <;> exact .of_outline h_outline (by simp [Event.isCollision])
  | _ => exact .of_outline rfl (by simp [Event.isCollision])

/-! ## During a call -/

/-- What a call that began in the state `s₀` has told of collisions, if these are its events: a
task collides when it is requested for the first time, and so much is counted. -/
structure Sighted (s₀ t : State C) (hs : List (Event C)) : Prop where
  sightings : ∀ f, t.current = some f → f.sightings = Sightings.meetAll {} f.keys
  reported : ∀ f, t.current = some f → f.report.collisions = f.sightings.collisions
  told : ∀ key, clashesOf key hs = (firstClash? (requestedBy s₀ t) key).toList
  measured : measured .collisions hs =
    (Sightings.meetAll {} (requestedBy s₀ t)).collisions

theorem requestedBy_of_current (s₀ : State C) (h_f : t.current = some f) :
    requestedBy s₀ t = f.keys := by
  rw [requestedBy, h_f]

theorem requestedBy_of_idle (s₀ : State C) (h_idle : t.current = none) :
    requestedBy s₀ t = s₀.backlog.map Record.key := by
  rw [requestedBy, h_idle]

/-- A task is met. -/
theorem Sighted.meets (h : Sighted s₀ t hs) {r : Record C} {rest : List (Record C)}
    {answer : Standing} {e : Event C} (h_f : t.current = some f)
    (h_f' : u.current = some (f.requested r rest answer)) (h_e : e.isCollision = false) :
    Sighted s₀ u (hs ++ ((f.collision r).map (.collided · r.key) ++ [e])) := by
  have h_seen := h.sightings f h_f
  have h_keys := requestedBy_of_current s₀ h_f
  have h_keys' : requestedBy s₀ u = f.keys ++ [r.key] := requestedBy_of_current s₀ h_f'
  have h_count : (Sightings.meetAll {} (f.keys ++ [r.key])).collisions =
      (Sightings.meetAll {} f.keys).collisions + (f.collision r).length := by
    rw [Sightings.meetAll_concat, Sightings.collisions_meet, Flush.collision, h_seen]
  have h_clash : f.collision r = (clash? f.keys r.key).toList := by
    rw [Flush.collision, h_seen, (Sightings.of_meetAll f.keys).meet_eq]
  have h_last : ∀ e' ∈ [e], e'.isCollision = false := by simpa using h_e
  refine ⟨fun f' h_now => ?_, fun f' h_now => ?_, fun key => ?_, ?_⟩
  · obtain rfl := Option.some.inj (h_f'.symm.trans h_now)
    show (f.sightings.meet r.key).2 = Sightings.meetAll {} (f.keys ++ [r.key])
    rw [Sightings.meetAll_concat, h_seen]
  · obtain rfl := Option.some.inj (h_f'.symm.trans h_now)
    show (f.report.count (f.collision r).length answer).collisions =
      (f.sightings.meet r.key).2.collisions
    rw [Sightings.collisions_meet, ← h.reported f h_f]
    cases answer <;> rfl
  · rw [h_keys', firstClash?_concat, clashesOf_append, clashesOf_append, clashesOf_collided,
      clashesOf_of_quiet key h_last, List.append_nil, h.told, h_keys, h_clash]
  · rw [h_keys', h_count, measured_append, measured_append, measured_collided,
      measured_of_noCollision h_last, h.measured, h_keys]
    rfl

theorem Transition.sighted (h : Sighted s₀ t hs) (h_step : Transition cfg env t m u fs)
    (h_noCall : m.isCall = false)
    (h_all : ∀ f, t.current = some f → u.current = none → f.keys = s₀.backlog.map Record.key) :
    Sighted s₀ u (hs ++ fs) := by
  have h_told (h_quiet : ∀ e ∈ fs, e.isCollision = false) (key : TaskId) :
      clashesOf key (hs ++ fs) = (firstClash? (requestedBy s₀ t) key).toList := by
    rw [clashesOf_append, clashesOf_of_quiet key h_quiet, List.append_nil, h.told]
  have h_measured (h_quiet : ∀ e ∈ fs, e.isCollision = false) :
      measured .collisions (hs ++ fs) = (Sightings.meetAll {} (requestedBy s₀ t)).collisions := by
    rw [measured_append, measured_of_noCollision h_quiet, Nat.add_zero, h.measured]
  cases h_step.sightingChange with
  | still h_goesOn h_idle h_quiet =>
    have h_same : requestedBy s₀ u = requestedBy s₀ t := by
      cases h_current : u.current with
      | none => rw [requestedBy_of_idle s₀ h_current, requestedBy_of_idle s₀ (h_idle h_current)]
      | some f' =>
        obtain ⟨f, h_f, h_keys, -⟩ := h_goesOn f' h_current
        rw [requestedBy_of_current s₀ h_current, requestedBy_of_current s₀ h_f, h_keys]
    rw [← h_same] at h_told h_measured
    refine ⟨fun f' h_f' => ?_, fun f' h_f' => ?_, h_told h_quiet, h_measured h_quiet⟩
    · obtain ⟨f, h_f, h_keys, h_sightings, -⟩ := h_goesOn f' h_f'
      rw [h_sightings, h_keys, h.sightings f h_f]
    · obtain ⟨f, h_f, -, h_sightings, h_report⟩ := h_goesOn f' h_f'
      rw [h_sightings, h_report, h.reported f h_f]
  | begins h_idle h_f' => simp [h_step.idle_of_noCall h_idle h_noCall] at h_f'
  | meets h_f h_f' h_fs h_e => exact h_fs ▸ h.meets h_f h_f' h_e
  | leaves h_f h_idle h_quiet =>
    -- A flush that is over has requested the task of every record, so its backlog tells what it
    -- met.
    have h_same : requestedBy s₀ u = requestedBy s₀ t := by
      rw [requestedBy_of_idle s₀ h_idle, requestedBy_of_current s₀ h_f, h_all _ h_f h_idle]
    rw [← h_same] at h_told h_measured
    exact ⟨by simp [h_idle], by simp [h_idle], h_told h_quiet, h_measured h_quiet⟩

theorem sighted_of_flush (h_step : Transition cfg env s₀ .flush t fs) : Sighted s₀ t fs := by
  cases h_step with
  | returns h_idle h_empty =>
    refine ⟨by simp [h_idle], by simp [h_idle], fun key => ?_, ?_⟩
    · rw [requestedBy_of_idle s₀ h_idle, h_empty]
      rfl
    · rw [requestedBy_of_idle s₀ h_idle, h_empty]
      rfl
  | begins =>
    refine ⟨fun f h_f => ?_, fun f h_f => ?_, fun _ => rfl, rfl⟩
    · obtain rfl := Option.some.inj h_f
      rfl
    · obtain rfl := Option.some.inj h_f
      rfl

theorem sighted_of_call (h_layout : Layout cfg s₀)
    (h_run : run cfg env s₀ (.flush :: ms) = some (t, es))
    (h_noCall : ∀ m ∈ ms, m.isCall = false) : Sighted s₀ t (history es) := by
  refine flush_induction (P := fun _ t es => Sighted s₀ t (history es)) h_run h_noCall ?_ ?_
  · intro u fs h_flush
    rw [history_stamp]
    exact sighted_of_flush h_flush
  · intro ms m t es u fs h_prefix h_past h_noCall _ h_before h_step
    rw [history_append, history_stamp]
    refine h_step.sighted h_before h_noCall fun f h_f h_idle => ?_
    have h_flush := (h_layout.of_run h_prefix).inFlush f h_f
    rw [(h_step.caller_of_leaves h_f h_idle).keys_of_leaves h_flush h_idle,
      (number_of_call h_layout h_prefix h_past h_f).2]

/-! ## When all tasks have been requested -/

/-- What a call with these records says and tells of collisions, if the tallies stood so when it
began. -/
structure CountsCollisions (rs : List (Record C)) (before : Tallies) (t : State C)
    (es : List (Stamped C)) (after : Tallies) : Prop where
  /-- A task with another text than the first task with its digest is told once to collide with
  that, and no other task is, however often and in whatever order they come. -/
  told : ∀ key, clashesOf key (history es) = (firstClash? (rs.map Record.key) key).toList
  /-- The report has as many collisions as there are more texts than digests. -/
  reported : ∀ report, Reports t es report →
    report.collisions + (digestsOf rs).card = (textsOf rs).card
  /-- By as many the tallies grow. -/
  tallied : after.collisions + (digestsOf rs).card = before.collisions + (textsOf rs).card

/-- The report of a call that has requested all its tasks. -/
theorem collisions_of_reports (h_layout : Layout cfg s₀)
    (h_run : run cfg env s₀ (.flush :: ms) = some (t, es)) (h_noCall : ∀ m ∈ ms, m.isCall = false)
    {report : Report} (h_reports : Reports t es report) :
    report.collisions = (Sightings.meetAll {} (s₀.backlog.map Record.key)).collisions := by
  refine h_reports.holds (P := fun report => report.collisions =
    (Sightings.meetAll {} (s₀.backlog.map Record.key)).collisions) h_run h_noCall
    (fun h_empty => ?_) fun {_ _ _ f} h_run h_noCall h_f h_stage => ?_
  · rw [h_empty]
    rfl
  · have h_sighted := sighted_of_call h_layout h_run h_noCall
    rw [h_sighted.reported f h_f, h_sighted.sightings f h_f,
      keys_of_requested h_layout h_run h_noCall h_f h_stage]

/-- A call of `flush` in any run, whatever the store holds and whatever else moves, as soon as it
has requested all its tasks. The collisions that it tells of, reports and tallies follow from the
texts of its records alone. -/
theorem collisions_are_counted {threads : Nat} {now : Moment} {ms₀ : List (Move C)}
    {es₀ : List (Stamped C)} (h_before : run cfg env (start threads now) ms₀ = some (s₀, es₀))
    (h_run : run cfg env s₀ (.flush :: ms) = some (t, es)) (h_noCall : ∀ m ∈ ms, m.isCall = false)
    (h_requested : ∀ f, t.current = some f → ¬ f.Requesting) :
    CountsCollisions s₀.backlog (Event.tally {} es₀) t es (Event.tally {} (es₀ ++ es)) := by
  have h_layout := layout_of_run h_before
  have h_sighted := sighted_of_call h_layout h_run h_noCall
  have h_keys : requestedBy s₀ t = s₀.backlog.map Record.key := by
    cases h_current : t.current with
    | none => exact requestedBy_of_idle s₀ h_current
    | some f =>
      rw [requestedBy_of_current s₀ h_current,
        keys_of_requested h_layout h_run h_noCall h_current (h_requested f h_current)]
  have h_total := (Sightings.of_meetAll (s₀.backlog.map Record.key)).total
  rw [textsOf_eq, digestsOf_eq] at h_total
  refine ⟨fun key => h_keys ▸ h_sighted.told key, fun report h_reports => ?_, ?_⟩
  · rw [collisions_of_reports h_layout h_run h_noCall h_reports, h_total]
  · have h_after := tally_counter .collisions (es₀ ++ es)
    rw [history_append, measured_append, h_sighted.measured, h_keys] at h_after
    have h_then : (Event.tally {} es₀).collisions = measured .collisions (history es₀) :=
      tally_counter .collisions es₀
    have h_now : (Event.tally {} (es₀ ++ es)).collisions = measured .collisions (history es₀) +
        (Sightings.meetAll {} (s₀.backlog.map Record.key)).collisions := h_after
    rw [h_now, h_then, Nat.add_assoc, h_total]

/-- Six records with four texts, of which three have one digest: the second comes twice, and the
first comes again after it. -/
def sixRecords : List (Move Nat) :=
  [.enqueue ⟨0, "k", "a"⟩, .enqueue ⟨0, "k", "\x00a"⟩, .enqueue ⟨0, "k", "a"⟩,
    .enqueue ⟨0, "k", "\x00\x00a"⟩, .enqueue ⟨0, "k", "\x00a"⟩, .enqueue ⟨0, "k", "b"⟩]

theorem two_of_six_records_collide :
    ∃ s₀ es₀ t es report, run {} counted (start 1 0) sixRecords = some (s₀, es₀) ∧
      run {} counted s₀ (.flush :: List.replicate 7 .caller) = some (t, es) ∧
      (∀ m ∈ List.replicate 7 (.caller : Move Nat), m.isCall = false) ∧
      (∀ f, t.current = some f → ¬ f.Requesting) ∧ Reports t es report ∧
      report.collisions + 2 = 4 ∧ (Event.tally {} (es₀ ++ es)).collisions + 2 = 0 + 4 ∧
      clashesOf (.ofText "\x00\x00a") (history es) = [.ofText "a"] ∧
      clashesOf (.ofText "a") (history es) = [] := by
  have h_summary : ((run {} counted (start 1 0) sixRecords).bind fun r₀ =>
      (run {} counted r₀.1 (.flush :: List.replicate 7 .caller)).map fun r =>
        (r₀.1.backlog.map Record.task, (Event.tally {} r₀.2).collisions,
          r.1.current.map isJoining)) =
      some (["a", "\x00a", "a", "\x00\x00a", "\x00a", "b"], 0, some true) := rfl
  obtain ⟨⟨s₀, es₀⟩, h_before, h_later⟩ := Option.bind_eq_some_iff.1 h_summary
  obtain ⟨⟨t, es⟩, h_run, h_eq⟩ := Option.map_eq_some_iff.1 h_later
  simp only [Prod.mk.injEq] at h_eq
  obtain ⟨h_tasks, h_none, h_joining⟩ := h_eq
  have h_noCall : ∀ m ∈ List.replicate 7 (.caller : Move Nat), m.isCall = false := by decide
  obtain ⟨f, h_f, h_joining⟩ := Option.map_eq_some_iff.1 h_joining
  have h_stage : ¬ f.Requesting := by
    rintro ⟨rest, h_requesting⟩
    simp [isJoining, h_requesting] at h_joining
  have h_requested : ∀ f', t.current = some f' → ¬ f'.Requesting := fun f' h_f' =>
    Option.some.inj (h_f.symm.trans h_f') ▸ h_stage
  have h_reports : Reports t es f.report := .inr ⟨f, h_f, h_stage, rfl⟩
  have h_counts := collisions_are_counted h_before h_run h_noCall h_requested
  have h_texts : (textsOf s₀.backlog).card = 4 := by
    rw [textsOf, h_tasks]
    decide
  have h_digests : (digestsOf s₀.backlog).card = 2 := by
    have h_map : (s₀.backlog.map fun r => Digest.ofText r.task) =
        (s₀.backlog.map Record.task).map Digest.ofText := by simp
    rw [digestsOf, h_map, h_tasks]
    decide +kernel
  have h_keys : s₀.backlog.map Record.key = (s₀.backlog.map Record.task).map .ofText := by
    simp [Record.key]
  have h_reported := h_counts.reported f.report h_reports
  have h_tallied := h_counts.tallied
  have h_third := h_counts.told (.ofText "\x00\x00a")
  have h_first := h_counts.told (.ofText "a")
  rw [h_texts, h_digests] at h_reported h_tallied
  rw [h_none] at h_tallied
  rw [h_keys, h_tasks] at h_third h_first
  exact ⟨s₀, es₀, t, es, f.report, h_before, h_run, h_noCall, h_requested, h_reports, h_reported,
    h_tallied, h_third.trans (by decide +kernel), h_first.trans (by decide +kernel)⟩

end State

end KernelDispatch
