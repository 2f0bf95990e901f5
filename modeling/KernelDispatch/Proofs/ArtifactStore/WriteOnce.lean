/-
  KernelDispatch.Proofs.ArtifactStore.WriteOnce

  The store as a map from texts to entries that are written once.

  `TextMap.Step` says what an operation does to such a map and what it answers; a store
  follows it, whatever the operations are and however many of them (`run_answers`). An
  entry of another text is no concern of an operation that names a task, also if the
  digests are equal (`find?_apply_of_ne`). Until entries are removed a slot keeps what it
  has settled to (`slot?_apply`), so it settles once at most (`settlings_le_one`).
-/
import Mathlib.Data.Set.Card
import KernelDispatch.ArtifactStore.Lemmas
import KernelDispatch.ArtifactStore.Operation

namespace KernelDispatch

variable {A : Type}

/-! ## Operations -/

namespace StoreOp

/-- The task that an operation names. -/
def key? : StoreOp A → Option TaskId
  | request key _ | publish key _ | fail key _ => some key
  | rejectPending _ | retain .. | clear => none

/-- The task that an operation settles if it is pending, and to what. -/
def settling? : StoreOp A → Option (TaskId × Slot A)
  | publish key artifact => some (key, .ready artifact)
  | fail key message => some (key, .failed message)
  | request .. | rejectPending _ | retain .. | clear => none

/-- Whether an operation may remove entries. -/
def removes : StoreOp A → Bool
  | retain .. | clear => true
  | request .. | publish .. | fail .. | rejectPending _ => false

/-- Whether an operation settles the slot of a task. -/
def settles (s : ArtifactStore A) (k : TaskId) (op : StoreOp A) : Bool :=
  s.isPending k && ((op.apply s).2.slot? k).any (!·.isPending)

/-- How many of these operations settle the slot of a task. -/
def settlings (s : ArtifactStore A) (k : TaskId) : List (StoreOp A) → Nat
  | [] => 0
  | op :: ops => (op.settles s k).toNat + settlings (op.apply s).2 k ops

/-- The answers to a sequence of operations. -/
def answers (s : ArtifactStore A) : List (StoreOp A) → List StoreAnswer
  | [] => []
  | op :: ops => (op.apply s).1 :: answers (op.apply s).2 ops

theorem run_append (s : ArtifactStore A) (ops ops' : List (StoreOp A)) :
    run s (ops ++ ops') = run (run s ops) ops' := by
  rw [run, List.foldl_append, run, run]

end StoreOp

/-! ## Maps from texts to entries -/

/-- A map from texts to entries. -/
abbrev TextMap (A : Type) := String → Option (Entry A)

namespace TextMap

/-- What an operation does to a map from texts to entries, and what it answers. -/
inductive Step (m : TextMap A) : StoreOp A → StoreAnswer → TextMap A → Prop where
  | creates {key : TaskId} {flush : Nat} (h_new : m key.text = none) :
      Step m (.request key flush) (.standing .scheduled)
        (Function.update m key.text (some ⟨key, .pending, flush, flush⟩))
  | finds {key : TaskId} {flush : Nat} {e : Entry A} (h_entry : m key.text = some e) :
      Step m (.request key flush)
        (.standing (if e.slot.isReady && e.scheduledBy != flush then .reused else .shared))
        (Function.update m key.text (some { e with usedBy := flush }))
  | settles {op : StoreOp A} {key : TaskId} {content : Slot A} {e : Entry A}
      (h_op : op.settling? = some (key, content)) (h_entry : m key.text = some e)
      (h_pending : e.slot = .pending) :
      Step m op (.settled true) (Function.update m key.text (some { e with slot := content }))
  | discards {op : StoreOp A} {key : TaskId} {content : Slot A}
      (h_op : op.settling? = some (key, content))
      (h_settled : ∀ e, m key.text = some e → e.slot ≠ .pending) :
      Step m op (.settled false) m
  | rejects {message : String} :
      Step m (.rejectPending message)
        (.counted {text | ∃ e, m text = some e ∧ e.slot = .pending}.ncard)
        (fun text => (m text).map fun e =>
          if e.slot.isPending then { e with slot := .failed message } else e)
  | retains {retention : Retention} {rank : TaskId → Nat} {m' : TextMap A}
      (h_stays : ∀ text e, m' text = some e → m text = some e ∧ e.slot.isReady = true) :
      Step m (.retain retention rank) (.counted {text | m text ≠ none ∧ m' text = none}.ncard) m'
  | clears : Step m .clear .done (fun _ => none)

/-- What a sequence of operations does to a map from texts to entries, and what they answer. -/
inductive Run : TextMap A → List (StoreOp A) → List StoreAnswer → TextMap A → Prop where
  | nil {m : TextMap A} : Run m [] [] m
  | cons {m m' m'' : TextMap A} {op : StoreOp A} {ops : List (StoreOp A)} {answer : StoreAnswer}
      {answers : List StoreAnswer} (h_step : Step m op answer m')
      (h_rest : Run m' ops answers m'') : Run m (op :: ops) (answer :: answers) m''

end TextMap

namespace ArtifactStore

variable {s : ArtifactStore A} {k : TaskId} {op : StoreOp A} {ops : List (StoreOp A)}

/-- A store as a map from texts to entries. -/
def byText (s : ArtifactStore A) : TextMap A := fun text => s.find? (.ofText text)

@[simp] theorem byText_text (s : ArtifactStore A) (k : TaskId) : s.byText k.text = s.find? k := by
  rw [byText, TaskId.ofText_text]

/-! ## Entries after an operation -/

/-- A request makes an entry or marks the one that it finds. -/
theorem find?_request (s : ArtifactStore A) (k : TaskId) (flush : Nat) (x : TaskId) :
    (s.request k flush).2.find? x =
      if x = k then
        some (((s.find? k).map fun e => { e with usedBy := flush }).getD
          ⟨k, .pending, flush, flush⟩)
      else s.find? x := by
  unfold request
  split
  · next e h =>
    rw [touch, find?_mapEntries]
    by_cases h_x : x = k
    · subst h_x
      simp [h, key_of_find? h]
    · rw [if_neg h_x]
      cases h_find : s.find? x with
      | none => rfl
      | some e' => simp [key_of_find? h_find, h_x]
  · next h =>
    rw [find?_add]
    simp [h, eq_comm]

/-- A settling operation writes into the slot of its task if that is pending, and does nothing
else. -/
theorem find?_settle (s : ArtifactStore A) (k : TaskId) (content : Slot A) (x : TaskId) :
    (s.settle k content).2.find? x =
      if x = k ∧ s.isPending k then (s.find? k).map fun e => { e with slot := content }
      else s.find? x := by
  unfold settle
  split
  · next h =>
    rw [find?_mapEntries]
    by_cases h_x : x = k
    · subst h_x
      rw [if_pos ⟨rfl, h⟩]
      cases h_find : s.find? x with
      | none => rfl
      | some e => simp [key_of_find? h_find]
    · rw [if_neg fun h_and => h_x h_and.1]
      cases h_find : s.find? x with
      | none => rfl
      | some e => simp [key_of_find? h_find, h_x]
  · next h => simp [h]

/-- An operation on a task concerns no entry of another text. -/
theorem find?_apply_of_ne {key : TaskId} (h_key : op.key? = some key) (h_ne : k.text ≠ key.text) :
    (op.apply s).2.find? k = s.find? k := by
  have h_k : k ≠ key := fun h_eq => h_ne (congrArg TaskId.text h_eq)
  cases op with
  | request k' flush =>
    cases h_key
    exact (s.find?_request key flush k).trans (if_neg h_k)
  | publish k' artifact =>
    cases h_key
    exact (s.find?_settle key _ k).trans (if_neg fun h_and => h_k h_and.1)
  | fail k' message =>
    cases h_key
    exact (s.find?_settle key _ k).trans (if_neg fun h_and => h_k h_and.1)
  | rejectPending message => cases h_key
  | retain retention rank => cases h_key
  | clear => cases h_key

/-- Where the entry of one task has changed, the map has changed at one text. -/
theorem byText_eq_update {s' : ArtifactStore A} {e : Option (Entry A)}
    (h : ∀ x, s'.find? x = if x = k then e else s.find? x) :
    s'.byText = Function.update s.byText k.text e := by
  funext text
  rw [byText, h, Function.update_apply]
  exact if_congr TaskId.eq_iff_text_eq rfl rfl

/-! ## Counting texts -/

/-- As many entries pass a test as there are texts whose entries do. -/
theorem countP_entries (s : ArtifactStore A) (p : Entry A → Bool) :
    s.entries.countP p = {text | ∃ e, s.byText text = some e ∧ p e = true}.ncard := by
  have h_nodup : ((s.entries.filter p).map fun e => e.key.text).Nodup := by
    have h_texts : (s.entries.map fun e => e.key.text).Nodup := by
      rw [← Function.comp_def, ← List.map_map]
      exact s.distinct.map fun a b h => TaskId.eq_iff_text_eq.2 h
    exact h_texts.sublist (List.filter_sublist.map _)
  have h_set : {text | ∃ e, s.byText text = some e ∧ p e = true} =
      ((s.entries.filter p).map fun e => e.key.text).toFinset := by
    ext text
    simp only [Set.mem_ofPred_eq, List.coe_toFinset, List.mem_map, List.mem_filter, byText,
      find?_eq_some_iff]
    constructor
    · rintro ⟨e, ⟨h_e, h_key⟩, h_p⟩
      exact ⟨e, ⟨h_e, h_p⟩, by rw [h_key, TaskId.text_ofText]⟩
    · rintro ⟨e, ⟨h_e, h_p⟩, rfl⟩
      exact ⟨e, ⟨h_e, (TaskId.ofText_text e.key).symm⟩, h_p⟩
  rw [h_set, Set.ncard_coe_finset, List.toFinset_card_of_nodup h_nodup, List.length_map,
    List.countP_eq_length_filter]

theorem size_eq_ncard (s : ArtifactStore A) : s.size = {text | s.byText text ≠ none}.ncard := by
  have h_count := s.countP_entries fun _ => true
  rw [List.countP_true] at h_count
  rw [size, h_count]
  simp [Option.ne_none_iff_exists']

theorem finite_texts (s : ArtifactStore A) : {text | s.byText text ≠ none}.Finite := by
  refine (s.entries.map fun e => e.key.text).toFinset.finite_toSet.subset fun text h_text => ?_
  obtain ⟨e, h_find⟩ := Option.ne_none_iff_exists'.1 h_text
  obtain ⟨h_e, h_key⟩ := find?_eq_some_iff.1 h_find
  simpa using ⟨e, h_e, by rw [h_key, TaskId.text_ofText]⟩

/-! ## The end of a flush -/

/-- The end of a flush answers with the number of texts that have left. -/
theorem retain_counts (s : ArtifactStore A) (retention : Retention) (rank : TaskId → Nat) :
    (s.retain retention rank).1 =
      {text | s.byText text ≠ none ∧ (s.retain retention rank).2.byText text = none}.ncard := by
  have h_sizes : (s.retain retention rank).1 = s.size - (s.retain retention rank).2.size := by
    cases retention with
    | untilFlushEnds => rfl
    | acrossFlushes maxEntries => rfl
  have h_subset : {text | (s.retain retention rank).2.byText text ≠ none} ⊆
      {text | s.byText text ≠ none} := by
    intro text h_text
    obtain ⟨e, h_e⟩ := Option.ne_none_iff_exists'.1 h_text
    exact Option.ne_none_iff_exists'.2 ⟨e, (find?_of_retain h_e).1⟩
  rw [h_sizes, size_eq_ncard, size_eq_ncard,
    ← Set.ncard_sdiff h_subset ((s.retain retention rank).2.finite_texts)]
  congr 1
  ext text
  simp

/-! ## The store follows the map -/

theorem step_settle {content : Slot A} (h_op : op.settling? = some (k, content)) :
    TextMap.Step s.byText op (.settled (s.settle k content).1) (s.settle k content).2.byText := by
  rw [settle_changed]
  cases h_pending : s.isPending k with
  | true =>
    obtain ⟨e, h_find, h_slot⟩ := Option.map_eq_some_iff.1 (isPending_iff.1 h_pending)
    have h_after (x : TaskId) : (s.settle k content).2.find? x =
        if x = k then some { e with slot := content } else s.find? x := by
      rw [find?_settle, h_pending, h_find, Option.map_some]
      simp
    rw [byText_eq_update h_after]
    exact .settles h_op ((s.byText_text k).trans h_find) h_slot
  | false =>
    have h_same : (s.settle k content).2.byText = s.byText := by
      rw [settle, if_neg (by simp [h_pending])]
    rw [h_same]
    refine .discards h_op fun e h_entry h_slot => ?_
    rw [byText_text] at h_entry
    have h_slot? : s.slot? k = some .pending := by rw [slot?, h_entry, Option.map_some, h_slot]
    rw [isPending_iff.2 h_slot?] at h_pending
    cases h_pending

/-- Every operation does to the store what it does to the map, with the same answer. -/
theorem step_apply (s : ArtifactStore A) (op : StoreOp A) :
    TextMap.Step s.byText op (op.apply s).1 (op.apply s).2.byText := by
  cases op with
  | request key flush =>
    simp only [StoreOp.apply]
    rw [byText_eq_update (s.find?_request key flush)]
    cases h : s.find? key with
    | none =>
      rw [(request_eq_scheduled_iff ..).2 (by rw [slot?, h, Option.map_none])]
      exact .creates ((s.byText_text key).trans h)
    | some e =>
      rw [request_of_find? flush h]
      exact .finds ((s.byText_text key).trans h)
  | publish key artifact => exact step_settle rfl
  | fail key message => exact step_settle rfl
  | rejectPending message =>
    have h_map : (s.rejectPending message).2.byText = fun text => (s.byText text).map fun e =>
        if e.slot.isPending then { e with slot := .failed message } else e :=
      funext fun text => s.find?_mapEntries _ (Entry.rejectIfPending_key message) (.ofText text)
    have h_count := s.countP_entries fun e => e.slot.isPending
    have h_pending (slot : Slot A) : slot.isPending = true ↔ slot = .pending := by
      cases slot <;> simp [Slot.isPending]
    simp only [h_pending] at h_count
    simp only [StoreOp.apply, h_map]
    rw [show (s.rejectPending message).1 = _ from h_count]
    exact .rejects
  | retain retention rank =>
    simp only [StoreOp.apply, retain_counts]
    exact .retains fun text e h_e => find?_of_retain h_e
  | clear => exact .clears

theorem run_answers (s : ArtifactStore A) (ops : List (StoreOp A)) :
    TextMap.Run s.byText ops (StoreOp.answers s ops) (StoreOp.run s ops).byText := by
  induction ops generalizing s with
  | nil => exact .nil
  | cons op ops ih => exact .cons (s.step_apply op) (ih (op.apply s).2)

/-! ## Slots are written once -/

/-- Unless entries are removed a slot stays, and if it has settled it keeps its content. -/
theorem slot?_apply {slot : Slot A} (h_stays : op.removes = false)
    (h_slot : s.slot? k = some slot) :
    ∃ slot', (op.apply s).2.slot? k = some slot' ∧ (slot = .pending ∨ slot' = slot) := by
  have h_settle (key : TaskId) (content : Slot A) : ∃ slot',
      (s.settle key content).2.slot? k = some slot' ∧ (slot = .pending ∨ slot' = slot) := by
    rw [slot?_settle]
    split
    · next h =>
      obtain ⟨rfl, h_pending⟩ := h
      rw [isPending_iff, h_slot] at h_pending
      exact ⟨content, rfl, .inl (Option.some.inj h_pending)⟩
    · exact ⟨slot, h_slot, .inr rfl⟩
  cases op with
  | request key flush =>
    refine ⟨slot, ?_, .inr rfl⟩
    simp only [StoreOp.apply, slot?_request]
    rw [if_neg, h_slot]
    rintro ⟨rfl, h_none⟩
    rw [h_slot] at h_none
    cases h_none
  | publish key artifact => exact h_settle key _
  | fail key message => exact h_settle key _
  | rejectPending message =>
    simp only [StoreOp.apply, slot?_rejectPending, h_slot, Option.map_some]
    refine ⟨_, rfl, ?_⟩
    cases slot with
    | pending => exact .inl rfl
    | ready | failed => exact .inr rfl
  | retain retention rank => cases h_stays
  | clear => cases h_stays

theorem slot?_run {slot : Slot A} (h_stays : ∀ op ∈ ops, op.removes = false)
    (h_slot : s.slot? k = some slot) :
    ∃ slot', (StoreOp.run s ops).slot? k = some slot' ∧ (slot = .pending ∨ slot' = slot) := by
  induction ops generalizing s slot with
  | nil => exact ⟨slot, h_slot, .inr rfl⟩
  | cons op ops ih =>
    obtain ⟨h_op, h_ops⟩ := List.forall_mem_cons.1 h_stays
    obtain ⟨slot₁, h_slot₁, h_cases₁⟩ := slot?_apply h_op h_slot
    obtain ⟨slot₂, h_slot₂, h_cases₂⟩ := ih h_ops h_slot₁
    refine ⟨slot₂, h_slot₂, ?_⟩
    rcases h_cases₁ with h_pending | rfl
    · exact .inl h_pending
    · exact h_cases₂

theorem settlings_of_settled {slot : Slot A} (h_stays : ∀ op ∈ ops, op.removes = false)
    (h_slot : s.slot? k = some slot) (h_settled : slot ≠ .pending) :
    StoreOp.settlings s k ops = 0 := by
  induction ops generalizing s with
  | nil => rfl
  | cons op ops ih =>
    obtain ⟨h_op, h_ops⟩ := List.forall_mem_cons.1 h_stays
    obtain ⟨slot', h_slot', h_cases⟩ := slot?_apply h_op h_slot
    obtain rfl := h_cases.resolve_left h_settled
    have h_not : s.isPending k = false := by
      rw [Bool.eq_false_iff, Ne, isPending_iff, h_slot]
      simpa using h_settled
    rw [StoreOp.settlings, StoreOp.settles, h_not, ih h_ops h_slot']
    rfl

/-- Unless entries are removed a slot settles once at most. -/
theorem settlings_le_one {slot : Slot A} (h_stays : ∀ op ∈ ops, op.removes = false)
    (h_slot : s.slot? k = some slot) : StoreOp.settlings s k ops ≤ 1 := by
  induction ops generalizing s slot with
  | nil => exact Nat.zero_le 1
  | cons op ops ih =>
    obtain ⟨h_op, h_ops⟩ := List.forall_mem_cons.1 h_stays
    obtain ⟨slot', h_slot', -⟩ := slot?_apply h_op h_slot
    rw [StoreOp.settlings]
    cases h_settles : op.settles s k with
    | false => simpa using ih h_ops h_slot'
    | true =>
      -- The slot has settled, so none of the later operations settles it again.
      have h_settled : slot' ≠ .pending := by
        rintro rfl
        simp [StoreOp.settles, h_slot', Slot.isPending] at h_settles
      rw [settlings_of_settled h_ops h_slot' h_settled]
      rfl

/-- Any operations on a store, one after another. The store is a map from texts to entries: a
request makes a pending entry if the text has none, and answers `scheduled` only then; an artifact
or a failure is written, and this is answered, exactly if the entry is pending; rejecting turns the
pending entries into failures and counts them. From a request answered `scheduled` until entries are
next removed, the slot of its task settles once at most, and at every moment it is there and either
pending or what it is at the end. And an operation on a task leaves the whole entry of every other
text as it was. -/
theorem is_write_once_map (s : ArtifactStore A) (ops : List (StoreOp A)) :
    TextMap.Run s.byText ops (StoreOp.answers s ops) (StoreOp.run s ops).byText ∧
    (∀ before key flush middle after, ops = before ++ .request key flush :: (middle ++ after) →
      ((StoreOp.run s before).request key flush).1 = .scheduled →
      (∀ op ∈ middle, op.removes = false) →
      StoreOp.settlings (StoreOp.run s (before ++ [.request key flush])) key middle ≤ 1 ∧
      ∀ early late, middle = early ++ late →
        ∃ slot, (StoreOp.run s (before ++ .request key flush :: early)).slot? key = some slot ∧
          (slot = .pending ∨
            (StoreOp.run s (before ++ .request key flush :: middle)).slot? key = some slot)) ∧
    ∀ before op after key, ops = before ++ op :: after → op.key? = some key →
      ∀ k : TaskId, k.text ≠ key.text →
        (StoreOp.run s (before ++ [op])).find? k = (StoreOp.run s before).find? k := by
  refine ⟨s.run_answers ops, fun before key flush middle after _ h_scheduled h_stays => ?_,
    fun before op after key _ h_key k h_ne => ?_⟩
  · have h_run (ops : List (StoreOp A)) : StoreOp.run s (before ++ .request key flush :: ops) =
        StoreOp.run ((StoreOp.run s before).request key flush).2 ops := StoreOp.run_append ..
    have h_slot : ((StoreOp.run s before).request key flush).2.slot? key = some .pending := by
      rw [slot?_request, if_pos ⟨rfl, (request_eq_scheduled_iff ..).1 h_scheduled⟩]
    constructor
    · rw [h_run]
      exact settlings_le_one h_stays h_slot
    · rintro early late rfl
      obtain ⟨h_early, h_late⟩ := List.forall_mem_append.1 h_stays
      obtain ⟨slot, h_then, -⟩ := slot?_run h_early h_slot
      obtain ⟨slot', h_end, h_cases⟩ := slot?_run h_late h_then
      rw [h_run, h_run, StoreOp.run_append]
      refine ⟨slot, h_then, h_cases.imp_right ?_⟩
      rintro rfl
      exact h_end
  · rw [StoreOp.run_append]
    exact find?_apply_of_ne h_key h_ne

/-- Two texts with one digest. Both are requested, the first compiles and the second fails, and a
second artifact for the first comes too late. -/
def clashingTexts : List (StoreOp Nat) :=
  [.request (.ofText "rcaelumdduab") 1, .request (.ofText "aaqaaaaaaaja") 1,
    .publish (.ofText "rcaelumdduab") 3, .fail (.ofText "aaqaaaaaaaja") "no",
    .publish (.ofText "rcaelumdduab") 4]

theorem clashing_texts_are_kept_apart :
    (TaskId.ofText "rcaelumdduab").clashesWith (.ofText "aaqaaaaaaaja") = true ∧
      StoreOp.answers ∅ clashingTexts = [.standing .scheduled, .standing .scheduled,
        .settled true, .settled true, .settled false] ∧
      StoreOp.settlings (StoreOp.run ∅ (clashingTexts.take 1)) (.ofText "rcaelumdduab")
        (clashingTexts.drop 1) ≤ 1 ∧
      (StoreOp.run ∅ (clashingTexts.take 3)).find? (.ofText "aaqaaaaaaaja") =
        (StoreOp.run ∅ (clashingTexts.take 2)).find? (.ofText "aaqaaaaaaaja") := by
  obtain ⟨-, h_once, h_frame⟩ := is_write_once_map ∅ clashingTexts
  have h_settlings := h_once [] (.ofText "rcaelumdduab") 1 (clashingTexts.drop 1) [] rfl
    (by decide +kernel) (by decide)
  have h_other := h_frame (clashingTexts.take 2) (.publish (.ofText "rcaelumdduab") 3)
    (clashingTexts.drop 3) (.ofText "rcaelumdduab") rfl rfl (.ofText "aaqaaaaaaaja") (by decide)
  exact ⟨by decide +kernel, by decide +kernel, h_settlings.1, h_other⟩

end ArtifactStore

end KernelDispatch
