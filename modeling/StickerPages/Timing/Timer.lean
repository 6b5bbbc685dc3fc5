import StickerPages.Timing.Clock

/-!
# Jobs at a time

A table of jobs, each due at one instant and known by its name; a new job takes the place of the job
of its name. Time is counted in milliseconds. The jobs due at one instant are taken out together and
then run in the order of their times and names.

The table's alarm is set whenever a job is added; `since` is the instant of that, and by `Clock.late`
it decides whether a job that is due at the present instant has been noticed yet.

The table does not know what a job does: `α` is whatever its owner wants back when it is due.
-/

namespace StickerPages.Timing

/-- A job: its name, when it is due, and what to do. -/
structure Job (α : Type) where
  id : String
  due : Nat
  task : α
deriving Repr

/-- The clock, the time, whether the table is at work, and its jobs. -/
structure Timer (α : Type) where
  clock : Clock
  now : Nat
  /-- When the alarm was set. -/
  since : Nat
  running : Bool
  jobs : List (Job α)
deriving Repr

namespace Timer

variable {α : Type}

/-- Nothing to do yet. -/
def idle (clock : Clock) : Timer α := ⟨clock, 0, 0, false, []⟩

/-- Adds a job due after a delay; a job of the same name gives way. -/
def put (t : Timer α) (id : String) (delay : Nat) (task : α) : Timer α :=
  { t with since := t.now, jobs := t.jobs.filter (·.id != id) ++ [⟨id, t.now + delay, task⟩] }

/-- Removes the job of this name. -/
def drop (t : Timer α) (id : String) : Timer α :=
  { t with jobs := t.jobs.filter (·.id != id) }

/-- Removes the jobs of these names. -/
def dropAll (t : Timer α) (ids : List String) : Timer α :=
  ids.foldl drop t

/-- A job of this name is waiting. -/
def has (t : Timer α) (id : String) : Bool :=
  t.jobs.any (·.id == id)

/-- Goes to work. -/
def start (t : Timer α) : Timer α := { t with running := true }

/-- Stops work and forgets every job. -/
def shutDown (t : Timer α) : Timer α := { t with running := false, jobs := [] }

/-- The earliest instant at which a job is due. -/
def nextDue? (t : Timer α) : Option Nat :=
  if t.running then (t.jobs.map (·.due)).min? else none

/-- The alarm for a job due at `due` has rung by `instant`. -/
def rung (t : Timer α) (instant due : Nat) : Bool :=
  due < instant || (due == instant && !t.clock.late t.since due)

/-- The earliest instant at which a job is due, if its alarm has rung by `instant`. -/
def nextRung? (t : Timer α) (instant : Nat) : Option Nat :=
  t.nextDue?.filter (t.rung instant)

/-- Earlier first; of two jobs at one instant, by name. -/
def before (a b : Job α) : Bool :=
  a.due < b.due || (a.due == b.due && !(b.id < a.id))

/-- Takes out everything due up to `instant`, in the order in which it is to run. -/
def takeDue (t : Timer α) (instant : Nat) : List (Job α) × Timer α :=
  ((t.jobs.filter (·.due ≤ instant)).mergeSort before,
    { t with jobs := t.jobs.filter fun j => instant < j.due })

/-- The waiting jobs with the time left, in the order of their names. -/
def waiting (t : Timer α) : List (String × Nat) :=
  (t.jobs.map fun j => (j.id, j.due - t.now)).mergeSort fun a b => !(b.1 < a.1)

end Timer

end StickerPages.Timing
