import StickerPages.Pairs
import StickerPages.Timing.Timer

/-!
# When to sweep

A pacer turns notices of changes into sweeps. Notices that follow each other closely end in one
sweep: each notice puts the debounce job off again, and the sweep comes when the job is due at last.
Besides, a few sweeps come at fixed delays after the start, whatever happens.

The pacer keeps its jobs in a `Timer` that it may share; `wrap` marks its jobs as its own. Whether it
is `pending` says whether a notice still waits for its sweep.
-/

namespace StickerPages.Timing

/-- What a pacer's jobs are. -/
inductive Task where
  | debounced
  | delayed
deriving DecidableEq, Repr

/-- The name of the job that waits for changes to calm down. -/
def debounceJob : String := "sticker-debounce-sweep"

/-- The name of the job that sweeps at a delay after the start. -/
def delayedJob (delay : Nat) : String := "sticker-delayed-sweep-" ++ toString delay

/-- A pacer's state. -/
structure Pacer where
  /-- A notice still waits for its sweep. -/
  pending : Bool := false
  /-- The pacer listens to events of the page. -/
  listening : Bool := false
  /-- The names of the jobs it made since it last stopped. -/
  made : List String := []
  /-- Sweeps by reason. -/
  counts : List (String × Nat) := []
deriving Repr

namespace Pacer

variable {α : Type}

/-- Remembers a job as made. -/
def noting (p : Pacer) (id : String) : Pacer :=
  if p.made.contains id then p else { p with made := p.made ++ [id] }

/-- Takes a notice: the debounce job starts anew. Without a timer at work the notice is lost. -/
def notify (debounce : Nat) (wrap : Task → α) (s : Pacer × Timer α) : Pacer × Timer α :=
  if s.2.running then
    (({ s.1 with pending := true }).noting debounceJob,
      s.2.put debounceJob debounce (wrap .debounced))
  else s

/-- Adds the job of one delay. -/
def delay (wrap : Task → α) (s : Pacer × Timer α) (d : Nat) : Pacer × Timer α :=
  (s.1.noting (delayedJob d), s.2.put (delayedJob d) d (wrap .delayed))

/-- Puts the timer to work and adds the jobs of the delays. -/
def start (delays : List Nat) (wrap : Task → α) (s : Pacer × Timer α) : Pacer × Timer α :=
  delays.foldl (delay wrap) (s.1, s.2.start)

/-- Removes the pacer's own jobs; a timer that is its own stops work too. -/
def stop (owned : Bool) (s : Pacer × Timer α) : Pacer × Timer α :=
  if s.2.running then
    let t := s.2.dropAll s.1.made
    ({ s.1 with pending := false, made := [] }, if owned then t.shutDown else t)
  else ({ s.1 with pending := false }, s.2)

/-- The debounce job has come: nothing is pending, unless a new notice came just before. -/
def settle (s : Pacer × Timer α) : Pacer :=
  if s.2.has debounceJob then s.1 else { s.1 with pending := false }

/-- Counts a sweep. -/
def count (p : Pacer) (reason : String) : Pacer :=
  { p with counts := Pairs.put p.counts reason ((p.counts.lookup reason).getD 0 + 1) }

end Pacer

end StickerPages.Timing
