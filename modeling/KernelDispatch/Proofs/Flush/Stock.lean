/-
  KernelDispatch.Proofs.Flush.Stock

  What a flush brings into the store.

  During a call of `flush` the artifacts in the store are those from before, as the
  flush has used them, and those that its compile jobs have published
  (`FreshCall.stock`). The failures of the wait are those that the flush has received
  (`FreshCall.failures_eq`).
-/
import KernelDispatch.Proofs.ArtifactStore.Retention
import KernelDispatch.Proofs.Flush.Requests

namespace KernelDispatch

variable {C : Type} {cfg : Settings} {env : Environment C}

/-! ## Readings -/

/-- The artifact that a compile job of flush `n` puts into the pending slot of its task. -/
def Event.published? (n : Nat) : Event C → Option (TaskId × Artifact C)
  | slotSettled flush _ key (.ready artifact) true =>
    if flush = n then some (key, artifact) else none
  | _ => none

/-- The artifacts that the compile jobs of a flush have published, with their tasks, in order. -/
def published (n : Nat) (es : List (Event C)) : List (TaskId × Artifact C) :=
  es.filterMap (Event.published? n)

@[simp] theorem published_append (n : Nat) (es fs : List (Event C)) :
    published n (es ++ fs) = published n es ++ published n fs :=
  List.filterMap_append

theorem published_of_quiet (n : Nat) {es : List (Event C)} (h : ∀ e ∈ es, e.isSettling = false) :
    published n es = [] := by
  refine List.filterMap_eq_nil_iff.2 fun e h_e => ?_
  have h_quiet := h e h_e
  cases e with
  | slotSettled => simp [Event.isSettling] at h_quiet
  | _ => rfl

theorem published_of_unchanged (n : Nat) {es : List (Event C)}
    (h : ∀ n j key content, Event.slotSettled n j key content true ∉ es) : published n es = [] := by
  refine List.filterMap_eq_nil_iff.2 fun e h_e => ?_
  cases e with
  | slotSettled n j key content changed =>
    cases changed with
    | true => exact absurd h_e (h n j key content)
    | false => cases content <;> rfl
  | _ => rfl

/-- The failure that flush `n` gets to know by a poll: that of a compile job, or its own if it gives
up. -/
def Event.compileFailure? (n : Nat) : Event C → Option Failure
  | polled flush (.received outcome) _ => if flush = n then Join.failure? outcome else none
  | polled flush (.expired waited) join => if flush = n then some (join.timeout waited) else none
  | polled flush .orphaned join => if flush = n then some join.lost else none
  | _ => none

/-- The compile failures that a flush has received, in order. -/
def compileFailures (n : Nat) (es : List (Event C)) : List Failure :=
  es.filterMap (Event.compileFailure? n)

@[simp] theorem compileFailures_append (n : Nat) (es fs : List (Event C)) :
    compileFailures n (es ++ fs) = compileFailures n es ++ compileFailures n fs :=
  List.filterMap_append

theorem compileFailures_of_noPoll (n : Nat) {es : List (Event C)}
    (h : ∀ e ∈ es, e.isPoll = false) : compileFailures n es = [] := by
  refine List.filterMap_eq_nil_iff.2 fun e h_e => ?_
  have h_quiet := h e h_e
  cases e with
  | polled => simp [Event.isPoll] at h_quiet
  | _ => rfl

theorem compileFailures_of_quiet (n : Nat) {es : List (Event C)}
    (h : ∀ e ∈ es, e.isSettling = false) : compileFailures n es = [] := by
  refine compileFailures_of_noPoll n fun e h_e => ?_
  have h_quiet := h e h_e
  cases e with
  | polled => simp [Event.isSettling] at h_quiet
  | _ => rfl

/-- A poll adds the failure that it shows. -/
theorem Join.failures_note (j : Join) (n : Nat) (found : Polled) :
    (j.note found).failures =
      j.failures ++ compileFailures n [Event.polled (C := C) n found (j.note found)] := by
  cases found with
  | received outcome =>
    cases outcome <;> simp [Join.note, compileFailures, Event.compileFailure?, Join.failure?]
  | expired waited =>
    simp [Join.note, compileFailures, Event.compileFailure?, Join.timeout, Join.missing]
  | orphaned => simp [Join.note, compileFailures, Event.compileFailure?, Join.lost, Join.missing]

/-! ## The stock of a store -/

/-- The artifacts that there are after flush `n` has used these tasks and its compile jobs have
published these artifacts, if this is the store before it. -/
def artifactsAfter (before : ArtifactStore (Artifact C)) (n : Nat) (keys : List TaskId)
    (published : List (TaskId × Artifact C)) : List (Entry (Artifact C)) :=
  before.artifacts.map (Entry.usedIn keys n) ++ published.map fun p => ⟨p.1, .ready p.2, n, n⟩

/-- What a store holds in flush `n`: these artifacts, and pending slots of its own. -/
structure Stock (before : ArtifactStore (Artifact C)) (n : Nat) (keys : List TaskId)
    (published : List (TaskId × Artifact C)) (s : ArtifactStore (Artifact C)) : Prop where
  artifacts : s.artifacts.Perm (artifactsAfter before n keys published)
  pending : ∀ e ∈ s.entries, e.slot = .pending → e.scheduledBy = n ∧ e.usedBy = n

namespace Stock

variable {before s : ArtifactStore (Artifact C)} {n : Nat} {keys : List TaskId}
  {pub : List (TaskId × Artifact C)}

theorem request (h : Stock before n keys pub s) (k : TaskId) :
    Stock before n (keys ++ [k]) pub (s.request k n).2 where
  artifacts := by
    have h_used : (artifactsAfter before n keys pub).map (Entry.usedIn [k] n) =
        artifactsAfter before n (keys ++ [k]) pub := by
      rw [artifactsAfter, artifactsAfter, List.map_append, List.map_map, List.map_map]
      congr 1
      · exact List.map_congr_left fun e _ => (e.usedIn_append keys [k] n).symm
      · refine List.map_congr_left fun p _ => ?_
        simp only [Function.comp, Entry.usedIn]
        split <;> rfl
    rw [ArtifactStore.artifacts_request, ← h_used]
    exact h.artifacts.map _
  pending e h_e h_pending := by
    unfold ArtifactStore.request at h_e
    split at h_e
    · rw [ArtifactStore.touch_eq] at h_e
      obtain ⟨old, h_old, rfl⟩ := List.mem_map.1 h_e
      rw [Entry.usedIn_slot] at h_pending
      obtain ⟨h_scheduledBy, h_usedBy⟩ := h.pending old h_old h_pending
      unfold Entry.usedIn
      split <;> simp [h_scheduledBy, h_usedBy]
    · rcases List.mem_append.1 h_e with h_old | h_new
      · exact h.pending e h_old h_pending
      · obtain rfl := List.mem_singleton.1 h_new
        exact ⟨rfl, rfl⟩

/-- What a compile job publishes comes to the stock. -/
theorem settle (h : Stock before n keys pub s) (j : Nat) (k : TaskId)
    (content : Slot (Artifact C)) :
    Stock before n keys
      (pub ++ published n [.slotSettled n j k content (s.settle k content).1])
      (s.settle k content).2 := by
  cases h_isPending : s.isPending k with
  | false =>
    have h_none : s.settle k content = (false, s) := by simp [ArtifactStore.settle, h_isPending]
    have h_published :
        published (C := C) n [.slotSettled n j k content (s.settle k content).1] = [] := by
      rw [h_none]
      cases content <;> rfl
    rw [h_published, h_none, List.append_nil]
    exact h
  | true =>
    obtain ⟨e, h_find, h_pending⟩ :=
      Option.map_eq_some_iff.1 (ArtifactStore.isPending_iff.1 h_isPending)
    obtain ⟨h_e, rfl⟩ := ArtifactStore.find?_eq_some_iff.1 h_find
    obtain ⟨h_scheduledBy, h_usedBy⟩ := h.pending e h_e h_pending
    have h_changed : (s.settle e.key content).1 = true := by
      rw [ArtifactStore.settle_changed, h_isPending]
    rw [h_changed]
    constructor
    · have h_new : [{ e with slot := content }].filter (·.slot.isReady) =
          (published (C := C) n [.slotSettled n j e.key content true]).map
            fun p => ⟨p.1, .ready p.2, n, n⟩ := by
        cases content <;>
          simp [published, Event.published?, Slot.isReady, h_scheduledBy, h_usedBy]
      refine (ArtifactStore.artifacts_settle content h_e h_pending).trans ?_
      rw [h_new, artifactsAfter, List.map_append, ← List.append_assoc]
      exact h.artifacts.append_right _
    · obtain ⟨others, h_before, h_after⟩ := ArtifactStore.entries_settle content h_e h_pending
      intro x h_x h_pending'
      rcases List.mem_cons.1 (h_after.mem_iff.1 h_x) with rfl | h_other
      · exact ⟨h_scheduledBy, h_usedBy⟩
      · exact h.pending x (h_before.mem_iff.2 (List.mem_cons_of_mem _ h_other)) h_pending'

theorem rejectPending (h : Stock before n keys pub s) (message : String) :
    Stock before n keys pub (s.rejectPending message).2 where
  artifacts := by
    rw [ArtifactStore.artifacts_rejectPending]
    exact h.artifacts
  pending e h_e h_pending := by
    obtain ⟨old, h_old, rfl⟩ := List.mem_map.1 h_e
    unfold ArtifactStore.Entry.rejectIfPending at h_pending ⊢
    split at h_pending
    · cases h_pending
    · next h_settled =>
      rw [if_neg h_settled]
      exact h.pending old h_old h_pending

end Stock

namespace State

variable {s₀ t u : State C} {f f' : Flush C} {m : Move C} {ms : List (Move C)}
  {es : List (Stamped C)} {fs : List (Event C)}

namespace FreshCall

/-- During a flush the artifacts are those from before, as the flush has used them, and those that
its compile jobs have published. -/
theorem stock (h : FreshCall cfg env s₀ ms t es) (h_f : t.current = some f) :
    Stock s₀.store (s₀.flushes + 1) f.keys (published (s₀.flushes + 1) (history es)) t.store := by
  refine h.inFlush_induction (P := fun t es f => Stock s₀.store (s₀.flushes + 1) f.keys
    (published (s₀.flushes + 1) (history es)) t.store) h_f ?_ ?_
  · constructor
    · rw [history_stamp, published_of_quiet _ (by simp [Event.isSettling])]
      have h_unused : s₀.store.artifacts.map (Entry.usedIn [] (s₀.flushes + 1)) =
          s₀.store.artifacts :=
        (List.map_congr_left fun e _ => e.usedIn_nil _).trans (List.map_id _)
      exact .of_eq (by simp [artifactsAfter, firstFlush, h_unused])
    · intro e h_e h_pending
      have h_ready := h.ready e.key e.slot (ArtifactStore.slot?_of_mem h_e)
      rw [h_pending] at h_ready
      cases h_ready
  · intro ms m t es u fs f f' h_call _ _ h_f _ h_before _ h_change
    rw [history_append, history_stamp, published_append]
    cases h_change with
    | @requests r _ _ h_f' h_store h_quiet =>
      have h_requested := h_before.request r.key
      rw [published_of_quiet _ h_quiet, List.append_nil, h_store, h_f', (h_call.number h_f).1]
      exact h_requested
    | begins _ h_f' h_store h_quiet | advances _ h_f' _ h_store h_quiet =>
      rw [published_of_quiet _ h_quiet, List.append_nil, h_store, h_f']
      exact h_before
    | @polls found _ _ _ _ h_f' h_store h_fs =>
      rw [h_fs, h_store, h_f', storeAfter, show published (s₀.flushes + 1)
        [Event.polled f.number found (f.join.note found)] = [] from rfl, List.append_nil]
      cases found.slotMessage? with
      | none => exact h_before
      | some message => exact h_before.rejectPending message
    | still h_outline _ h_settling =>
      have h_keys : f'.outline.keys = f.outline.keys := by rw [h_outline]
      have h_keys : f'.keys = f.keys := h_keys
      rw [h_keys]
      cases h_settling with
      | still h_store h_quiet =>
        rw [published_of_quiet _ h_quiet, List.append_nil, h_store]
        exact h_before
      | @settles job content h_job h_store h_fs =>
        rw [h_fs, h_store, h_call.job_flush h_job]
        exact h_before.settle job.id job.key content

/-- The failures of the wait are those that the flush has received. -/
theorem failures_eq (h : FreshCall cfg env s₀ ms t es) (h_f : t.current = some f) :
    f.join.failures = compileFailures (s₀.flushes + 1) (history es) := by
  refine h.inFlush_induction (P := fun _ es f =>
    f.join.failures = compileFailures (s₀.flushes + 1) (history es)) h_f rfl ?_
  intro ms m t es u fs f f' h_call _ _ h_f _ h_before _ h_change
  rw [history_append, history_stamp, compileFailures_append]
  cases h_change with
  | requests _ h_f' _ h_quiet | advances _ h_f' _ _ h_quiet =>
    rw [compileFailures_of_quiet _ h_quiet, List.append_nil, h_f']
    exact h_before
  | begins h_stage h_f' _ h_quiet =>
    have h_fresh := (h_call.consistent.joined f h_f).fresh ⟨_, h_stage⟩
    rw [compileFailures_of_quiet _ h_quiet, List.append_nil, h_f', ← h_before, h_fresh]
    rfl
  | polls _ _ _ h_f' _ h_fs =>
    rw [h_fs, h_f', (h_call.number h_f).1, ← h_before]
    exact Join.failures_note ..
  | still _ h_join h_settling =>
    rw [h_join, h_before]
    cases h_settling with
    | still _ h_quiet => rw [compileFailures_of_quiet _ h_quiet, List.append_nil]
    | settles _ _ h_fs => rw [h_fs]; exact (List.append_nil _).symm

/-- A flush in two phases that is abandoned if a compilation fails goes on only without a
failure. -/
theorem unfailed_of_pastJoin (h : FreshCall cfg env s₀ ms t es) (h_f : t.current = some f)
    (h_pipelined : cfg.pipelined = false) (h_onFailure : cfg.onFailure = .abandonFlush)
    (h_past : f.PastJoin cfg) : f.join.failures = [] := by
  refine h.inFlush_induction (P := fun _ _ f => f.PastJoin cfg → f.join.failures = []) h_f
    (fun h_past => absurd h_past (by simp [Flush.PastJoin, firstFlush])) ?_ h_past
  intro ms m t es u fs f f' _ _ _ _ _ h_before _ h_change h_past
  cases h_change with
  | requests _ h_f' => simp [h_f', Flush.requested, Flush.PastJoin] at h_past
  | begins _ h_f' => simp [h_f', Flush.joinFrom, Flush.PastJoin, h_pipelined] at h_past
  | polls h_stage _ _ h_f' => simp [h_f', Flush.PastJoin, h_stage] at h_past
  | advances _ h_f' _ _ _ h_left =>
    rw [h_f']
    rcases h_left h_past with h_old | h_piped | h_others | h_none
    · exact h_before h_old
    · simp [h_pipelined] at h_piped
    · simp [h_onFailure] at h_others
    · exact h_none
  | still h_outline h_join =>
    have h_stage : f'.outline.stage = f.outline.stage := by rw [h_outline]
    have h_stage : f'.stage = f.stage := h_stage
    rw [h_join]
    simp only [Flush.PastJoin, h_stage] at h_past
    exact h_before h_past

end FreshCall

end State

end KernelDispatch
