import StickerPages.Catalog.Basic

/-!
# The catalog in use

A store holds the catalog that is in use and tells its subscribers when another one takes its place.
Subscribers are known by their names. A name may be subscribed several times; it is then called
several times, and taking it off takes off its earliest entry.

A subscriber may act on the store when it is called: it takes entries off and adds some, in any order,
and it may fail after that. A round of calls goes to those who were subscribed when it began, whatever
they do to the store meanwhile; a failure ends what the one who fails would have done, and nothing
else. `replaceUnder` holds for any conduct of the subscribers. In `replace` they act by their manner,
which is settled when a name is first subscribed.
-/

namespace StickerPages.Catalog

/-- What a subscriber does when it is called. -/
inductive Manner where
  | quiet
  /-- It fails, which concerns nobody else. -/
  | fails
  /-- It takes itself off. -/
  | once
  /-- It takes another one off. -/
  | drops (other : String)
  /-- It subscribes another one, unless that one has ever been subscribed. -/
  | adds (other : String)
deriving DecidableEq, Repr

/-- Something that is done to a store, from outside or by a subscriber while it is called. -/
inductive Deed where
  | subscribe (name : String) (manner : Manner)
  | unsubscribe (name : String)
deriving DecidableEq, Repr

/-- What a subscriber does when it is called: these deeds, and then it may fail. -/
structure Reaction where
  deeds : List Deed := []
  fails : Bool := false
deriving DecidableEq, Repr

/-- The catalog in use and its audience. -/
structure Store where
  groups : List Group := []
  /-- A catalog is being fetched. -/
  loading : Bool := false
  /-- A catalog has been fetched. -/
  loaded : Bool := false
  /-- The manner of everyone who was ever subscribed. -/
  manners : List (String × Manner) := []
  subscribers : List String := []
deriving Repr

namespace Store

/-- Subscribes a name; its manner counts only the first time. -/
def subscribe (s : Store) (name : String) (manner : Manner) : Store :=
  { s with
    subscribers := s.subscribers ++ [name]
    manners := if Pairs.has s.manners name then s.manners else s.manners ++ [(name, manner)] }

/-- Takes the earliest entry of a name off. -/
def unsubscribe (s : Store) (name : String) : Store :=
  { s with subscribers := s.subscribers.erase name }

/-- Something that is done to a store. -/
def undergo (s : Store) : Deed → Store
  | .subscribe name manner => s.subscribe name manner
  | .unsubscribe name => s.unsubscribe name

/-- What a subscriber sees when it is called. -/
structure Call where
  name : String
  groups : List Group
  loading : Bool
  loaded : Bool
deriving DecidableEq, Repr

/-- A call, and what came of it. -/
structure Visit where
  call : Call
  reaction : Reaction
deriving DecidableEq, Repr

/-- How subscribers act when they are called: by the store they find, the calls there were in this
round, and who is called. -/
abbrev Conduct := Store → List Visit → String → Reaction

/-- Calls one subscriber with the catalog in use. That it fails concerns nobody else. -/
def callOne (conduct : Conduct) (r : Store × List Visit) (name : String) : Store × List Visit :=
  let reaction := conduct r.1 r.2 name
  (reaction.deeds.foldl undergo r.1,
    r.2 ++ [⟨⟨name, r.1.groups, r.1.loading, r.1.loaded⟩, reaction⟩])

/-- Puts a catalog in use and tells the subscribers; the calls are the second part. -/
def replaceUnder (conduct : Conduct) (s : Store) (groups : List Group) : Store × List Visit :=
  s.subscribers.foldl (callOne conduct) ({ s with groups }, [])

/-- What a subscriber does by its manner. -/
def byManner : Conduct := fun s _ name =>
  match (s.manners.lookup name).getD .quiet with
  | .quiet => {}
  | .fails => { fails := true }
  | .once => { deeds := [.unsubscribe name] }
  | .drops other => { deeds := [.unsubscribe other] }
  | .adds other =>
    if Pairs.has s.manners other then {} else { deeds := [.subscribe other .quiet] }

/-- Puts a catalog in use and tells the subscribers, who act by their manners. -/
def replace (s : Store) (groups : List Group) : Store × List Call :=
  let r := s.replaceUnder byManner groups
  (r.1, r.2.map (·.call))

end Store

end StickerPages.Catalog
