/-
  KernelDispatch.Proofs.Flush.Serial

  The serial dispatcher, and accounts of what flushes do to their records.

  The serial dispatcher has no store and no threads: in a flush it compiles the
  task of each record afresh and runs it, one record after the other. An account
  tells what a flush did to its records; the history of a dispatcher gives one for
  each of its flushes (`accounts`). Every record that the serial dispatcher takes
  makes an entry in an account. A dispatcher owes one as well, and it makes it
  unless the launch job is lost (`balanced_of_run`) or the caller panics
  (`overdrawn_of_run`).
-/
import Mathlib.Data.List.ModifyLast
import KernelDispatch.Proofs.Flush.Unwinding

namespace KernelDispatch

variable {C : Type} {cfg : Settings} {env : Environment C}

/-! ## Accounts -/

/-- What a flush did to its records: the task and the contexts before and after of each run that
returned, and the places of the records that failed. -/
structure Account (C : Type) where
  completed : List (String × C × C) := []
  failed : List Nat := []

namespace Account

/-- One more record has run and left this context. -/
def complete (a : Account C) (r : Record C) (after : C) : Account C :=
  { a with completed := a.completed ++ [(r.task, r.context, after)] }

/-- The record at one more place has failed. -/
def fail (a : Account C) (seq : Nat) : Account C :=
  { a with failed := a.failed ++ [seq] }

/-- The number of records in an account. -/
def size (a : Account C) : Nat :=
  a.completed.length + a.failed.length

@[simp] theorem size_empty : ({} : Account C).size = 0 := rfl

@[simp] theorem size_complete (a : Account C) (r : Record C) (after : C) :
    (a.complete r after).size = a.size + 1 := by
  simp only [size, complete, List.length_append, List.length_singleton]
  omega

@[simp] theorem size_fail (a : Account C) (seq : Nat) : (a.fail seq).size = a.size + 1 := by
  simp only [size, fail, List.length_append, List.length_singleton]
  omega

/-- Compiles the task of the record at a place afresh and runs it. -/
def runRecord (g : String → Generated C) (a : Account C) (x : Record C × Nat) : Account C :=
  match g x.1.task with
  | .code code =>
    match code 0 x.1.context with
    | .completed after => a.complete x.1 after
    | .panicked _ | .lost _ => a.fail x.2
  | _ => a.fail x.2

/-- Every record makes one entry. -/
theorem size_runRecord (g : String → Generated C) (a : Account C) (x : Record C × Nat) :
    (a.runRecord g x).size = a.size + 1 := by
  unfold runRecord
  split
  · split <;> simp
  · simp

end Account

/-- The number of records in some accounts. -/
def total : List (Account C) → Nat
  | [] => 0
  | a :: as => a.size + total as

@[simp] theorem total_append (as bs : List (Account C)) :
    total (as ++ bs) = total as + total bs := by
  induction as with
  | nil => simp [total]
  | cons a as ih =>
    rw [List.cons_append, total, total, ih]
    omega

@[simp] theorem total_singleton (a : Account C) : total [a] = a.size := rfl

theorem total_modifyLast {as : List (Account C)} {k : Account C → Account C} (h_some : as ≠ [])
    (h_k : ∀ a, (k a).size = a.size + 1) : total (as.modifyLast k) = total as + 1 := by
  obtain ⟨past, a, rfl⟩ := (List.eq_nil_or_concat' as).resolve_left h_some
  rw [List.modifyLast_concat, total_append, total_append, total_singleton, total_singleton, h_k]
  omega

/-! ## The serial dispatcher -/

/-- The records enqueued and the accounts of the flushes. -/
structure Serial (C : Type) where
  backlog : List (Record C) := []
  accounts : List (Account C) := []

/-- Compiles and runs the records of a flush, one after the other. -/
def serialAccount (g : String → Generated C) (batch : List (Record C)) : Account C :=
  batch.zipIdx.foldl (Account.runRecord g) {}

theorem size_foldl_runRecord (g : String → Generated C) (xs : List (Record C × Nat))
    (a : Account C) : (xs.foldl (Account.runRecord g) a).size = a.size + xs.length := by
  induction xs generalizing a with
  | nil => rfl
  | cons x xs ih =>
    rw [List.foldl_cons, ih, Account.size_runRecord, List.length_cons]
    omega

theorem size_serialAccount (g : String → Generated C) (batch : List (Record C)) :
    (serialAccount g batch).size = batch.length := by
  simp [serialAccount, size_foldl_runRecord]

namespace Serial

/-- The serial dispatcher after a move: it enqueues and flushes, and all other moves are nothing to
it. -/
def step (g : String → Generated C) (p : Serial C) : Move C → Serial C
  | .enqueue r => { p with backlog := p.backlog ++ [r] }
  | .flush =>
    match p.backlog with
    | [] => p
    | batch => { backlog := [], accounts := p.accounts ++ [serialAccount g batch] }
  | _ => p

/-- The serial dispatcher after some moves. -/
def run (g : String → Generated C) (ms : List (Move C)) : Serial C :=
  ms.foldl (step g) {}

theorem run_concat (g : String → Generated C) (ms : List (Move C)) (m : Move C) :
    run g (ms ++ [m]) = (run g ms).step g m := by
  simp [run]

theorem step_flush_some {g : String → Generated C} {p : Serial C} (h : p.backlog ≠ []) :
    p.step g .flush =
      { backlog := [], accounts := p.accounts ++ [serialAccount g p.backlog] } := by
  cases h_backlog : p.backlog with
  | nil => exact absurd h_backlog h
  | cons r rest => simp [step, h_backlog]

/-- The serial dispatcher does nothing on a move that neither enqueues nor flushes. -/
theorem step_eq_self {g : String → Generated C} {p : Serial C} {m : Move C}
    (h_enqueue : ∀ r, m ≠ .enqueue r) (h_flush : m = .flush → p.backlog = []) :
    p.step g m = p := by
  cases m with
  | enqueue r => exact absurd rfl (h_enqueue r)
  | flush => simp [step, h_flush rfl]
  | _ => rfl

/-- Accounts are never taken back. -/
theorem total_le_step (g : String → Generated C) (p : Serial C) (m : Move C) :
    total p.accounts ≤ total (p.step g m).accounts := by
  cases m with
  | flush =>
    by_cases h_backlog : p.backlog = []
    · have h_same : p.step g .flush = p := step_eq_self (by simp) fun _ => h_backlog
      exact Nat.le_of_eq (by rw [h_same])
    · rw [step_flush_some h_backlog, total_append]
      exact Nat.le_add_right _ _
  | _ => exact Nat.le_refl _

end Serial

/-! ## The accounts in a history -/

/-- The accounts after one more event: a flush opens one, and its records go there. -/
def Event.accountsAfter (as : List (Account C)) : Event C → List (Account C)
  | began .. => as ++ [{}]
  | ran _ _ r _ (.completed after) => as.modifyLast (·.complete r after)
  | recordEnded _ seq _ _ (.error _) => as.modifyLast (·.fail seq)
  | _ => as

/-- The accounts of the flushes in a history, in the order in which they began. -/
def accounts (es : List (Event C)) : List (Account C) :=
  es.foldl Event.accountsAfter []

theorem accounts_append (es fs : List (Event C)) :
    accounts (es ++ fs) = fs.foldl Event.accountsAfter (accounts es) :=
  List.foldl_append

/-- Whether a launch job is lost. -/
def Event.isLoss : Event C → Bool
  | launchJobLost .. => true
  | _ => false

/-- The number of launch jobs that are lost. -/
def losses (es : List (Event C)) : Nat :=
  es.countP Event.isLoss

@[simp] theorem losses_append (es fs : List (Event C)) :
    losses (es ++ fs) = losses es + losses fs :=
  List.countP_append

theorem losses_eq_zero_iff {es : List (Event C)} :
    losses es = 0 ↔ ∀ n seq, Event.launchJobLost n seq ∉ es := by
  rw [losses, List.countP_eq_zero]
  constructor
  · intro h n seq h_lost
    exact h _ h_lost rfl
  · intro h e h_e h_loss
    cases e with
    | launchJobLost n seq => exact h n seq h_e
    | _ => simp [Event.isLoss] at h_loss

theorem accounts_of_noEntry (es : List (Event C)) {fs : List (Event C)}
    (h : ∀ e ∈ fs, e.isEntry = false) :
    accounts (es ++ fs) = accounts es ∧ losses (es ++ fs) = losses es := by
  -- By induction on what is appended, as the accounts are a fold from the left.
  induction fs generalizing es with
  | nil => simp
  | cons e fs ih =>
    have h_e := h e (List.mem_cons_self ..)
    have h_one : accounts (es ++ [e]) = accounts es ∧ losses (es ++ [e]) = losses es := by
      rw [accounts_append]
      cases e with
      | began | ran | recordEnded | launchJobLost | unwound => simp [Event.isEntry] at h_e
      | _ => exact ⟨rfl, by simp [losses, Event.isLoss]⟩
    rw [List.append_cons]
    obtain ⟨h_accounts, h_losses⟩ := ih (es ++ [e]) fun e' h_e' =>
      h e' (List.mem_cons_of_mem _ h_e')
    exact ⟨h_accounts.trans h_one.1, h_losses.trans h_one.2⟩

namespace State

variable {s s' t : State C} {f f' : Flush C} {p : Serial C} {g : String → Generated C}
  {es fs : List (Event C)}

/-! ## Entries that are owed -/

/-- The number of records of the flush in progress whose launch jobs have not come to an end. -/
def remaining (s : State C) : Nat :=
  match s.current with
  | none => 0
  | some _ => s.lane.length + s.backlog.length

/-- A dispatcher and the serial one have the same records enqueued, and each record of a flush has
an entry, or it is still to run, or its launch job is lost. -/
structure Balanced (s : State C) (p : Serial C) (es : List (Event C)) : Prop where
  idle : s.current = none → p.backlog = s.backlog
  inFlush : ∀ f, s.current = some f → p.backlog = [] ∧ f.batch ≠ [] ∧ accounts es ≠ []
  total : total (accounts es) + losses es + s.remaining = total p.accounts

theorem Balanced.onward (h : Balanced s p fs) (h_onward : Onward s s' es) :
    Balanced s' p (fs ++ es) := by
  obtain ⟨h_accounts, h_losses⟩ := accounts_of_noEntry fs h_onward.noEntry
  refine ⟨?_, ?_, ?_⟩
  · intro h_none
    obtain ⟨h_none', h_backlog⟩ := h_onward.idle h_none
    rw [h_backlog]
    exact h.idle h_none'
  · intro f' h_f'
    obtain ⟨f, h_f, h_batch⟩ := h_onward.inFlush f' h_f'
    rw [h_batch, h_accounts]
    exact h.inFlush f h_f
  · have h_remaining : s'.remaining = s.remaining := by
      cases h_current' : s'.current with
      | none => simp only [remaining, h_current', (h_onward.idle h_current').1]
      | some f' =>
        obtain ⟨f, h_f, -⟩ := h_onward.inFlush f' h_current'
        simp only [remaining, h_current', h_f, h_onward.length]
    rw [h_accounts, h_losses, h_remaining]
    exact h.total

/-- A launch job that comes to an end makes one entry, or it is lost. -/
theorem Balanced.launches {job : LaunchJob C} {rest : List (LaunchJob C)} (h : Balanced s p fs)
    (h_current : s.current = some f) (h_current' : s'.current = some f')
    (h_batch : f'.batch = f.batch) (h_lane : s.lane = job :: rest) (h_lane' : s'.lane = rest)
    (h_backlog : s'.backlog = s.backlog) (h_step : LauncherStep cfg env s job rest s' es) :
    Balanced s' p (fs ++ es) := by
  obtain ⟨h_empty, h_some, h_opened⟩ := h.inFlush f h_current
  -- One record less remains, and there is one entry or one loss more.
  have h_total := h.total
  simp only [remaining, h_current, h_lane, List.length_cons] at h_total
  have h_balanced (h_accounts : es.foldl Event.accountsAfter (accounts fs) ≠ [])
      (h_one : KernelDispatch.total (es.foldl Event.accountsAfter (accounts fs)) + losses es =
        KernelDispatch.total (accounts fs) + 1) : Balanced s' p (fs ++ es) := by
    refine ⟨fun h_none => by simp [h_current'] at h_none, ?_, ?_⟩
    · intro f₁ h_f₁
      obtain rfl : f' = f₁ := by simpa [h_current'] using h_f₁
      rw [accounts_append]
      exact ⟨h_empty, h_batch ▸ h_some, h_accounts⟩
    · simp only [accounts_append, losses_append, remaining, h_current', h_lane', h_backlog]
      omega
  -- An entry goes into the last account.
  have h_entry (k : Account C → Account C) (h_k : ∀ a, (k a).size = a.size + 1)
      (h_accounts : es.foldl Event.accountsAfter (accounts fs) = (accounts fs).modifyLast k)
      (h_losses : losses es = 0) : Balanced s' p (fs ++ es) := by
    refine h_balanced ?_ ?_
    · obtain ⟨past, a, h_past⟩ := (List.eq_nil_or_concat' (accounts fs)).resolve_left h_opened
      rw [h_accounts, h_past, List.modifyLast_concat]
      simp
    · rw [h_accounts, h_losses, total_modifyLast h_opened h_k]
  cases h_step with
  | waits | finds | aborts => simp [h_lane] at h_lane'
  | overflows | mutes | expires | loses => exact h_balanced h_opened rfl
  | misses | panics => exact h_entry (·.fail job.seq) (fun a => a.size_fail _) rfl rfl
  | @completes _ _ after =>
    exact h_entry (·.complete job.record after) (fun a => a.size_complete _ _) rfl rfl

theorem Transition.balanced {m : Move C} (h : Balanced s p fs) (h_layout : Layout cfg s)
    (h_runOthers : cfg.onFailure = .runOthers) (h_calm : Calm es)
    (h_step : Transition cfg env s m s' es) : Balanced s' (p.step g m) (fs ++ es) := by
  have h_total := h.total
  cases h_step.recordMove h_layout with
  | onward h_enqueue h_flush h_onward =>
    rw [Serial.step_eq_self h_enqueue fun h_m =>
      (h.idle (h_flush h_m).1).trans (h_flush h_m).2]
    exact h.onward h_onward
  | @enqueues r h_m h_idle h_s' h_es =>
    subst h_m h_s' h_es
    refine ⟨fun _ => congrArg (· ++ [r]) (h.idle h_idle), fun f h_f => by simp [h_idle] at h_f, ?_⟩
    simp only [remaining, h_idle] at h_total
    simp only [List.append_nil, remaining, h_idle]
    exact h_total
  | begins h_m h_idle h_some h_s' h_es =>
    subst h_m h_s' h_es
    have h_backlog := h.idle h_idle
    simp only [remaining, h_idle, Nat.add_zero] at h_total
    rw [Serial.step_flush_some (h_backlog ▸ h_some)]
    refine ⟨fun h_none => by simp at h_none, ?_, ?_⟩
    · rintro f ⟨rfl⟩
      refine ⟨rfl, h_some, ?_⟩
      rw [accounts_append]
      exact List.append_ne_nil_of_right_ne_nil _ (by simp)
    · -- The records enqueued remain to run now, and the serial dispatcher has run them.
      have h_opens : total (accounts (fs ++ [.began (s.flushes + 1) s.backlog])) =
          total (accounts fs) := by
        rw [accounts_append]
        exact total_append _ _
      have h_losses : losses (fs ++ [.began (s.flushes + 1) s.backlog]) = losses fs :=
        losses_append _ _
      rw [h_opens, h_losses, total_append, total_singleton, size_serialAccount, h_backlog,
        ← h_total]
      simp only [remaining, h_layout.idle h_idle, List.length_nil, Nat.zero_add]
  | launches h_m h_current h_current' h_batch h_lane h_lane' h_backlog h_launch =>
    subst h_m
    exact h.launches h_current h_current' h_batch h_lane h_lane' h_backlog h_launch
  | ends h_m h_current h_lane h_backlog h_current' h_backlog' h_noEntry =>
    subst h_m
    obtain ⟨h_accounts, h_losses⟩ := accounts_of_noEntry fs h_noEntry
    simp only [remaining, h_current, h_lane, h_backlog] at h_total
    refine ⟨fun _ => ?_, fun f' h_f' => by simp [h_current'] at h_f', ?_⟩
    · rw [h_backlog']
      exact (h.inFlush _ h_current).1
    · rw [h_accounts, h_losses]
      simp only [remaining, h_current']
      exact h_total
  | abandons _ h_onFailure => simp [h_runOthers] at h_onFailure
  | unwinds _ _ _ _ _ _ h_es =>
    exact absurd (h_es ▸ List.mem_singleton_self _) (h_calm overflowMessage)

/-- In every run without a panic of the caller, the records of the flushes have their entries, or
they are still to run, or their launch jobs are lost. -/
theorem balanced_of_run {threads : Nat} {now : Moment} {ms : List (Move C)}
    {es : List (Stamped C)} (h_run : run cfg env (start threads now) ms = some (t, es))
    (h_runOthers : cfg.onFailure = .runOthers) (h_calm : Calm (history es)) :
    Balanced t (Serial.run g ms) (history es) := by
  refine history_induction
    (P := fun ms t es => Calm es → Balanced t (Serial.run g ms) es) ?_ ?_ h_run h_calm
  · refine fun _ => ⟨fun _ => rfl, ?_, rfl⟩
    intro f h_f
    cases h_f
  · intro ms m t es u fs h_run _ h_balanced h_step h_calm
    obtain ⟨h_before, h_now⟩ := h_calm.of_append
    rw [Serial.run_concat]
    exact h_step.balanced (h_balanced h_before) (layout_of_run h_run) h_runOthers h_now

/-! ## After a panic of the caller -/

/-- A dispatcher that is stuck makes no entries. -/
theorem Transition.total_of_stuck {m : Move C} (h : Stuck cfg s) (h_layout : Layout cfg s)
    (h_step : Transition cfg env s m s' es) :
    total (accounts (fs ++ es)) = total (accounts fs) := by
  rw [accounts_append]
  cases h_step.recordMove h_layout with
  | onward _ _ h_onward =>
    rw [← accounts_append, (accounts_of_noEntry fs h_onward.noEntry).1]
  | ends _ _ _ _ _ _ h_noEntry | abandons _ _ h_noEntry =>
    rw [← accounts_append, (accounts_of_noEntry fs h_noEntry).1]
  | launches _ _ _ _ h_lane => simp [h.lane] at h_lane
  | enqueues _ _ _ h_es | unwinds _ _ _ _ _ _ h_es =>
    subst h_es
    rfl
  | begins _ _ _ _ h_es =>
    subst h_es
    exact total_append _ _

/-- A caller that panics leaves at least one record without an entry. -/
theorem Transition.overdrawn {m : Move C} {message : String} (h : Balanced s p fs)
    (h_layout : Layout cfg s) (h_step : Transition cfg env s m s' es)
    (h_unwound : Event.unwound message ∈ es) :
    total (accounts (fs ++ es)) < total (p.step g m).accounts := by
  obtain ⟨f, rfl, h_current, -, h_backlog, -, -, rfl⟩ := h_step.of_unwound h_layout h_unwound
  have h_total := h.total
  have h_some := List.length_pos_iff.2 (h.inFlush f h_current).2.1
  simp only [remaining, h_current, h_backlog] at h_total
  change total (accounts (fs ++ [.unwound overflowMessage])) < total p.accounts
  have h_same : accounts (fs ++ [.unwound overflowMessage]) = accounts fs := accounts_append _ _
  rw [h_same]
  omega

/-- After a panic of the caller, records are without an entry for good. -/
theorem overdrawn_of_run {threads : Nat} {now : Moment} {ms : List (Move C)}
    {es : List (Stamped C)} (h_run : run cfg env (start threads now) ms = some (t, es))
    (h_runOthers : cfg.onFailure = .runOthers) (h_unwound : ¬ Calm (history es)) :
    total (accounts (history es)) < total (Serial.run g ms).accounts := by
  refine history_induction (P := fun ms _ es => ¬ Calm es →
    total (accounts es) < total (Serial.run g ms).accounts) ?_ ?_ h_run h_unwound
  · exact fun h_unwound => absurd (by simp [Calm]) h_unwound
  · intro ms m t es u fs h_run _ h_before h_step h_unwound
    rw [Serial.run_concat]
    -- Either the caller panics on this move, or it has before and the dispatcher is stuck.
    by_cases h_calm : Calm (history es)
    · have h_now : ∃ message, Event.unwound message ∈ fs := by
        by_contra h_none
        push Not at h_none
        refine h_unwound fun message h_e => ?_
        rcases List.mem_append.1 h_e with h_e | h_e
        · exact h_calm message h_e
        · exact h_none message h_e
      obtain ⟨message, h_message⟩ := h_now
      exact h_step.overdrawn (balanced_of_run h_run h_runOthers h_calm)
        (layout_of_run h_run) h_message
    · have h_some : ∃ message, Event.unwound message ∈ history es := by
        simpa [Calm] using h_calm
      obtain ⟨message, h_message⟩ := h_some
      rw [h_step.total_of_stuck (stuck_of_run h_run h_message) (layout_of_run h_run)]
      exact Nat.lt_of_lt_of_le (h_before h_calm) (Serial.total_le_step g _ m)

/-- Nothing has kept a record from its entry: no launch job was lost, and no caller has
panicked. -/
def Unharmed (es : List (Event C)) : Prop :=
  (∀ n seq, Event.launchJobLost n seq ∉ es) ∧ Calm es

/-- Between flushes, if there are as many entries as there should be, nothing has kept a record
from its entry. -/
theorem unharmed_of_total_eq {threads : Nat} {now : Moment} {ms : List (Move C)}
    {es : List (Stamped C)} (h_run : run cfg env (start threads now) ms = some (t, es))
    (h_runOthers : cfg.onFailure = .runOthers) (h_idle : t.current = none)
    (h_total : total (accounts (history es)) = total (Serial.run g ms).accounts) :
    Unharmed (history es) := by
  have h_calm : Calm (history es) := by
    by_contra h_unwound
    exact Nat.ne_of_lt (overdrawn_of_run h_run h_runOthers h_unwound) h_total
  have h_balance := (balanced_of_run (g := g) h_run h_runOthers h_calm).total
  simp only [remaining, h_idle] at h_balance
  exact ⟨losses_eq_zero_iff.1 (by omega), h_calm⟩

end State

end KernelDispatch
