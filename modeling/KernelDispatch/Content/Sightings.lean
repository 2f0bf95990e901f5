/-
  KernelDispatch.Content.Sightings

  Which digests and which colliding tasks a flush has met so far.

  The first task with a digest stands for it. A different task with the same
  digest is a collision the first time it is met, however often it comes back.
-/
import KernelDispatch.Content.TaskId

namespace KernelDispatch

/-- The tasks that a flush has met. -/
structure Sightings where
  /-- The first task met for each digest, in order. -/
  first : List TaskId := []
  /-- The tasks met that collide with an earlier one. -/
  collided : List TaskId := []
  deriving DecidableEq

namespace Sightings

/-- The task that stands for a digest. -/
def first? (s : Sightings) (digest : Digest) : Option TaskId :=
  s.first.find? (·.digest = digest)

/-- Meets a task. If that is a new collision, the answer is the task it collides with. -/
def meet (s : Sightings) (k : TaskId) : Option TaskId × Sightings :=
  match s.first? k.digest with
  | none => (none, { s with first := s.first ++ [k] })
  | some f =>
    -- A task that has collided before is known and does not collide again.
    if f.clashesWith k && !s.collided.contains k then
      (some f, { s with collided := k :: s.collided })
    else (none, s)

/-- Meets some tasks in order. -/
def meetAll (s : Sightings) (ks : List TaskId) : Sightings :=
  ks.foldl (fun s k => (s.meet k).2) s

/-- The number of collisions. -/
def collisions (s : Sightings) : Nat :=
  s.collided.length

end Sightings

end KernelDispatch
