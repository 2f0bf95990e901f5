/-
  KernelDispatch.Content.TaskId

  The identity of a task: its text together with the text's digest. The digest
  only speeds up comparison. Two identities are equal exactly when their texts
  are (`eq_iff_text_eq`), so tasks whose digests collide stay apart.
-/
import KernelDispatch.Content.Digest
import KernelDispatch.Text.FirstLine
import KernelDispatch.Text.Quoted
import KernelDispatch.Text.Shown

namespace KernelDispatch

/-- The text of a task with its digest. -/
structure TaskId where
  text : String
  digest : Digest
  digest_eq : digest = Digest.ofText text

namespace TaskId

/-- The identity of the task with a text. -/
def ofText (text : String) : TaskId :=
  ⟨text, Digest.ofText text, rfl⟩

@[simp] theorem text_ofText (t : String) : (ofText t).text = t := rfl

@[simp] theorem digest_ofText (t : String) : (ofText t).digest = Digest.ofText t := rfl

@[simp] theorem ofText_text (f : TaskId) : ofText f.text = f := by
  obtain ⟨t, h, rfl⟩ := f
  rfl

/-- The text decides the identity. -/
theorem eq_iff_text_eq {a b : TaskId} : a = b ↔ a.text = b.text := by
  constructor
  · intro h
    rw [h]
  · intro h
    rw [← ofText_text a, ← ofText_text b, h]

/-- The digests decide most comparisons; equal digests fall back to the texts. -/
instance : DecidableEq TaskId := fun a b =>
  if h_digest : a.digest = b.digest then
    if h_text : a.text = b.text then isTrue (eq_iff_text_eq.2 h_text)
    else isFalse fun h => h_text (congrArg text h)
  else isFalse fun h => h_digest (congrArg digest h)

/-- Same digest, different task. -/
def clashesWith (a b : TaskId) : Bool :=
  a.digest == b.digest && a.text != b.text

/-- The first line of the text, which names the task in messages. -/
def headline (f : TaskId) : String :=
  Text.firstLine f.text

/-- The shown form. -/
def shown (f : TaskId) : String :=
  Text.shownRecord "Fingerprint" [("hash", f.digest.shown), ("canonical", Text.quoted f.text)]

end TaskId

end KernelDispatch
