import StickerPages.Live.Change

/-!
# A page with an audience

A document is a page that changes, together with everyone who asked to be told: the listeners of each
event, in the order in which they came, and the observations of its nodes.

While a batch is open, records of changes wait. `record` and `closeBatch` say which records are to be
told *now*; they tell nobody themselves, because what an audience does when it is told is not the
document's affair. Batches do not nest: a batch opened inside another belongs to the outer one, and
`openBatch` says by its answer whether it was the outer one.
-/

namespace StickerPages.Live

variable {ℓ ω : Type}

/-- A page, what state it is in, and its audience: listeners `ℓ` and observers `ω`. -/
structure Document (ℓ ω : Type) where
  forest : Forest
  /-- The page has been read to its end. -/
  ready : Bool
  /-- The reader looks at another page. -/
  hidden : Bool := false
  listeners : List (String × List ℓ) := []
  observations : List (Observation ω) := []
  /-- The key that the next observation gets. -/
  nextKey : Nat := 0
  /-- The records that wait for the end of a batch, if one is open. -/
  waiting : Option (List Change) := none

namespace Document

/-- A page just read, without an audience. -/
def ofMarkup (markup : String) (ready : Bool) : Document ℓ ω :=
  { forest := Forest.ofMarkup markup, ready }

/-! ## Events -/

/-- The listeners of an event, in the order in which they came. -/
def listenersOf (d : Document ℓ ω) (event : String) : List ℓ :=
  (d.listeners.lookup event).getD []

/-- Adds a listener, also one that listens already. -/
def listen (d : Document ℓ ω) (event : String) (l : ℓ) : Document ℓ ω :=
  { d with listeners := Pairs.put d.listeners event (d.listenersOf event ++ [l]) }

/-- Removes the first entry of a listener; its later entries stay. -/
def unlisten [BEq ℓ] (d : Document ℓ ω) (event : String) (l : ℓ) : Document ℓ ω :=
  { d with listeners := Pairs.put d.listeners event ((d.listenersOf event).erase l) }

/-! ## Observations -/

/-- Adds an observation; its key is the answer. -/
def observe (d : Document ℓ ω) (who : ω) (roots : List Nat) : Document ℓ ω × Nat :=
  ({ d with observations := d.observations ++ [⟨d.nextKey, who, roots⟩], nextKey := d.nextKey + 1 },
    d.nextKey)

/-- Ends an observation. -/
def disconnect (d : Document ℓ ω) (key : Nat) : Document ℓ ω :=
  { d with observations := d.observations.filter (·.key != key) }

/-! ## Records -/

/-- Takes note of a change; the answer is what is to be told now. -/
def record (d : Document ℓ ω) (c : Change) : Document ℓ ω × List Change :=
  match d.waiting with
  | some cs => ({ d with waiting := some (cs ++ [c]) }, [])
  | none => (d, [c])

/-- Opens a batch; the answer says whether none was open. -/
def openBatch (d : Document ℓ ω) : Document ℓ ω × Bool :=
  match d.waiting with
  | some _ => (d, false)
  | none => ({ d with waiting := some [] }, true)

/-- Closes the batch; the answer is what is to be told now. -/
def closeBatch (d : Document ℓ ω) : Document ℓ ω × List Change :=
  ({ d with waiting := none }, d.waiting.getD [])

/-- Gives the page another tree with the same nodes. -/
def withPage (d : Document ℓ ω) (page : Markup.Node) : Document ℓ ω :=
  { d with forest := { d.forest with page } }

end Document

end StickerPages.Live
