/-
  KernelDispatch.Proofs.Flush.Twins

  A flush of two texts with one digest.

  Such texts are compiled apart however often and in whatever order they come: from an empty
  store a flush submits one compile job for each of them and counts one collision
  (`compilesBoth_of_twins`). The Thue-Morse words of order 11 and more over two
  characters of one byte are such texts (`thueMorse_texts_collide`).
-/
import KernelDispatch.Proofs.Content.ThueMorse
import KernelDispatch.Proofs.Flush.Collisions
import KernelDispatch.Proofs.Flush.Prompt

namespace KernelDispatch

variable {C : Type} {cfg : Settings} {env : Environment C}

/-- Two texts with the same digest. -/
structure Twins (left right : String) : Prop where
  ne : left ≠ right
  digest : Digest.ofText left = Digest.ofText right

theorem Twins.symm {left right : String} (h : Twins left right) : Twins right left :=
  ⟨h.ne.symm, h.digest.symm⟩

theorem Twins.key_ne {left right : String} (h : Twins left right) :
    TaskId.ofText left ≠ .ofText right :=
  fun h_key => h.ne (TaskId.eq_iff_text_eq.1 h_key)

theorem Twins.clashes {left right : String} (h : Twins left right) :
    (TaskId.ofText left).clashesWith (.ofText right) = true := by
  simp [TaskId.clashesWith, h.ne, h.digest]

theorem twins_of_thueMorse {n : Nat} (h_n : 11 ≤ n) {x y : Char} (h_x : x.utf8Size = 1)
    (h_y : y.utf8Size = 1) (h_ne : x ≠ y) : Twins (thueMorseText x y n) (thueMorseText y x n) :=
  ⟨thueMorseText_ne h_ne n, digest_thueMorseText h_n h_x h_y⟩

/-! ## Compile jobs submitted -/

/-- The task for which a compile job is submitted. -/
def Event.submittedKey? : Event C → Option TaskId
  | .scheduled _ _ key => some key
  | _ => none

/-- The tasks for which compile jobs are submitted. -/
def submittedKeys (es : List (Event C)) : List TaskId :=
  es.filterMap Event.submittedKey?

theorem count_submittedKeys (key : TaskId) (es : List (Event C)) :
    (submittedKeys es).count key = (jobsFor key es).length := by
  induction es with
  | nil => rfl
  | cons e es ih =>
    cases e with
    | scheduled n j k =>
      by_cases h_key : k = key
      · simp_all [submittedKeys, Event.submittedKey?, jobsFor, Event.jobFor?]
      · simp_all [submittedKeys, Event.submittedKey?, jobsFor, Event.jobFor?]
    | _ => exact ih

namespace State

variable {s₀ t : State C} {ms : List (Move C)} {es : List (Stamped C)} {left right : String}

theorem requestedBy_of_requested (h_layout : Layout cfg s₀)
    (h_run : run cfg env s₀ (.flush :: ms) = some (t, es)) (h_noCall : ∀ m ∈ ms, m.isCall = false)
    (h_requested : ∀ f, t.current = some f → ¬ f.Requesting) :
    requestedBy s₀ t = s₀.backlog.map Record.key := by
  cases h_current : t.current with
  | none => exact requestedBy_of_idle s₀ h_current
  | some f =>
    rw [requestedBy_of_current s₀ h_current,
      keys_of_requested h_layout h_run h_noCall h_current (h_requested f h_current)]

/-! ## Records of two texts with one digest -/

/-- A call with records of these two texts submits a compile job for each and no other, reports two
compilations and one collision, and the tallies count one collision more. -/
structure CompilesBoth (left right : String) (before : Tallies) (t : State C)
    (es : List (Stamped C)) (after : Tallies) : Prop where
  submitted : (submittedKeys (history es)).Perm [.ofText left, .ofText right]
  reported : ∀ report, Reports t es report → report.compiled = 2 ∧ report.collisions = 1
  tallied : after.collisions = before.collisions + 1

theorem key_mem_of_textsOf {rs : List (Record C)} (h_texts : textsOf rs = {left, right})
    (key : TaskId) : key ∈ rs.map Record.key ↔ key ∈ [TaskId.ofText left, .ofText right] := by
  have h_text (text : String) : (∃ r ∈ rs, r.task = text) ↔ text = left ∨ text = right := by
    rw [← mem_textsOf, h_texts, Finset.mem_insert, Finset.mem_singleton]
  have h_key (text : String) : key = .ofText text ↔ key.text = text := TaskId.eq_iff_text_eq
  simp only [List.mem_map, List.mem_cons, List.not_mem_nil, or_false, h_key, ← h_text key.text]
  exact exists_congr fun r => and_congr_right fun _ => TaskId.eq_iff_text_eq

/-- Two texts with one digest collide once, in whatever order and number they come. -/
theorem collisions_of_twins (h : Twins left right) {rs : List (Record C)}
    (h_texts : textsOf rs = {left, right}) :
    (Sightings.meetAll {} (rs.map Record.key)).collisions = 1 := by
  -- There are as many collisions as there are more texts than digests.
  have h_total := (Sightings.of_meetAll (rs.map Record.key)).total
  have h_digests : digestsOf rs = {Digest.ofText left} := by
    have h_image : digestsOf rs = (textsOf rs).image Digest.ofText := by
      ext d
      simp [digestsOf, textsOf]
    rw [h_image, h_texts, Finset.image_insert, Finset.image_singleton, h.digest,
      Finset.pair_eq_singleton]
  rw [textsOf_eq, digestsOf_eq, h_texts, h_digests, Finset.card_pair h.ne,
    Finset.card_singleton] at h_total
  omega

/-- A call of `flush` in any run that begins with an empty store and with records of two texts with
one digest, and of both, as soon as it has requested all its tasks. -/
theorem compilesBoth_of_twins (h : Twins left right) {threads : Nat} {now : Moment}
    {ms₀ : List (Move C)} {es₀ : List (Stamped C)}
    (h_before : run cfg env (start threads now) ms₀ = some (s₀, es₀)) (h_empty : s₀.store = ∅)
    (h_texts : textsOf s₀.backlog = {left, right})
    (h_run : run cfg env s₀ (.flush :: ms) = some (t, es)) (h_noCall : ∀ m ∈ ms, m.isCall = false)
    (h_requested : ∀ f, t.current = some f → ¬ f.Requesting) :
    CompilesBoth left right (Event.tally {} es₀) t es (Event.tally {} (es₀ ++ es)) := by
  have h_layout := layout_of_run h_before
  have h_contains (key : TaskId) : s₀.store.contains key = false := by
    rw [h_empty]
    rfl
  -- Compile jobs of earlier flushes may still be under way; the store is what counts.
  have h_ready : AllReady s₀ := by
    intro key slot h_slot
    rw [h_empty] at h_slot
    cases h_slot
  have h_call : ReadyCall cfg env s₀ ms t es := ⟨h_layout, h_ready, h_noCall, h_run⟩
  have h_keys := key_mem_of_textsOf h_texts
  have h_nodup : [TaskId.ofText left, .ofText right].Nodup := by simpa using h.key_ne
  have h_collisions := collisions_of_twins h h_texts
  refine ⟨List.perm_iff_count.2 fun key => ?_, fun report h_reports => ⟨?_, ?_⟩, ?_⟩
  · rw [count_submittedKeys, h_call.jobsFor_length_of_requested h_requested, h_nodup.count]
    simp only [h_keys, h_contains, and_true]
  · have h_accounts := (h_call.accounts_of_reports (scheduler?_le_of_run h_before) h_reports).1
    have h_finset : (s₀.backlog.map Record.key).toFinset =
        [TaskId.ofText left, .ofText right].toFinset := by
      ext key
      rw [List.mem_toFinset, List.mem_toFinset, h_keys]
    rw [h_accounts.compiled, h_finset, Finset.filter_true_of_mem fun key _ => h_contains key,
      List.toFinset_card_of_nodup h_nodup]
    rfl
  · rw [collisions_of_reports h_layout h_run h_noCall h_reports, h_collisions]
  · have h_sighted := sighted_of_call h_layout h_run h_noCall
    have h_after : (Event.tally {} (es₀ ++ es)).collisions =
        measured .collisions (history es₀ ++ history es) := by
      rw [← history_append]
      exact tally_counter .collisions (es₀ ++ es)
    have h_then : (Event.tally {} es₀).collisions = measured .collisions (history es₀) :=
      tally_counter .collisions es₀
    rw [h_after, h_then, measured_append, h_sighted.measured,
      requestedBy_of_requested h_layout h_run h_noCall h_requested, h_collisions]

/-- Two different texts have the same hash, so their tasks are different and collide, each with the
other. Every flush of records of the two texts, and of both, that begins with an empty store
compiles both and counts one collision. -/
structure AlwaysCollide (left right : String) : Prop where
  texts_ne : left ≠ right
  hash_eq : polyHash (utf8Bytes left) = polyHash (utf8Bytes right)
  key_ne : TaskId.ofText left ≠ .ofText right
  clashes : (TaskId.ofText left).clashesWith (.ofText right) = true
  clashes_back : (TaskId.ofText right).clashesWith (.ofText left) = true
  compilesBoth : ∀ {C : Type} {cfg : Settings} {env : Environment C} {threads : Nat}
    {now : Moment} {ms₀ ms : List (Move C)} {s₀ t : State C} {es₀ es : List (Stamped C)},
    run cfg env (start threads now) ms₀ = some (s₀, es₀) → s₀.store = ∅ →
    textsOf s₀.backlog = {left, right} → run cfg env s₀ (.flush :: ms) = some (t, es) →
    (∀ m ∈ ms, m.isCall = false) → (∀ f, t.current = some f → ¬ f.Requesting) →
    CompilesBoth left right (Event.tally {} es₀) t es (Event.tally {} (es₀ ++ es))

/-- The Thue-Morse words of an order from 11 on, over two characters of one byte each, and their
complements always collide. -/
theorem thueMorse_texts_collide {n : Nat} (h_n : 11 ≤ n) {x y : Char} (h_x : x.utf8Size = 1)
    (h_y : y.utf8Size = 1) (h_ne : x ≠ y) :
    AlwaysCollide (thueMorseText x y n) (thueMorseText y x n) := by
  have h_twins := twins_of_thueMorse h_n h_x h_y h_ne
  exact ⟨h_twins.ne, Digest.mk.inj h_twins.digest, h_twins.key_ne, h_twins.clashes,
    h_twins.symm.clashes, compilesBoth_of_twins h_twins⟩

/-- Three records of two texts: the first one twice, with the other in between. -/
def betweenTwo (left right : String) : List (Move Nat) :=
  [.enqueue ⟨0, "k", left⟩, .enqueue ⟨0, "k", right⟩, .enqueue ⟨5, "k", left⟩]

theorem run_betweenTwo (left right : String) :
    ∃ s₀, run {} counted (start 1 0) (betweenTwo left right) = some (s₀, []) ∧ s₀.store = ∅ ∧
      s₀.current = none ∧ textsOf s₀.backlog = {left, right} := by
  refine ⟨_, rfl, rfl, rfl, ?_⟩
  ext text
  simp [textsOf, start]
  tauto

theorem words_of_order_eleven_collide :
    ∃ left right s₀ es₀ ms t es, left = thueMorseText 'a' 'b' 11 ∧
      right = thueMorseText 'b' 'a' 11 ∧ left ≠ right ∧
      (TaskId.ofText left).clashesWith (.ofText right) = true ∧
      run {} counted (start 1 0) (betweenTwo left right) = some (s₀, es₀) ∧ s₀.store = ∅ ∧
      textsOf s₀.backlog = {left, right} ∧
      run {} counted s₀ (.flush :: ms) = some (t, es) ∧ (∀ m ∈ ms, m.isCall = false) ∧
      t.current = none ∧ (submittedKeys (history es)).Perm [.ofText left, .ofText right] ∧
      (Event.tally {} (es₀ ++ es)).collisions = (Event.tally {} es₀).collisions + 1 := by
  obtain ⟨left, right, h_left, h_right, h_collide⟩ : ∃ left right,
      left = thueMorseText 'a' 'b' 11 ∧ right = thueMorseText 'b' 'a' 11 ∧
        AlwaysCollide left right :=
    ⟨_, _, rfl, rfl, thueMorse_texts_collide (by decide) (by decide) (by decide) (by decide)⟩
  obtain ⟨s₀, h_before, h_empty, h_idle, h_texts⟩ := run_betweenTwo left right
  obtain ⟨t, es, ms, h_over, h_run, h_noCall⟩ : ∃ t es ms, t.current = none ∧
      run {} counted s₀ (.flush :: ms) = some (t, es) ∧ ∀ m ∈ ms, m.isCall = false := by
    obtain ⟨h_over, ms, h_run, h_noCall⟩ := flush_returns (by decide) h_before h_idle .instant
    exact ⟨_, _, ms, h_over, h_run, h_noCall⟩
  have h_requested : ∀ f, t.current = some f → ¬ f.Requesting := by simp [h_over]
  have h_both := h_collide.compilesBoth h_before h_empty h_texts h_run h_noCall h_requested
  exact ⟨left, right, s₀, [], ms, t, es, h_left, h_right, h_collide.texts_ne,
    h_collide.clashes, h_before, h_empty, h_texts, h_run, h_noCall, h_over, h_both.submitted,
    h_both.tallied⟩

end State

end KernelDispatch
