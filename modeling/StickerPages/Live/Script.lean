import StickerPages.Live.Session

/-!
# What a host does with a session

A script is a list of actions that a host takes: it changes the page, observes and listens, starts
and stops the session and lets time pass. When the host is called it may act in its turn, once for
each observation and each listener; these actions are part of the script too.

Every action has an outcome, and the calls that it led to are kept as events. Both hold the nodes as
they were at that moment, so later changes do not alter them.
-/

namespace StickerPages.Live

open Markup Timing

/-- A node that a script speaks of: by the way to it from the root, child by child, or by a name that
the host gave it. -/
inductive Target where
  | path (indexes : List Nat)
  | held (name : String)
deriving Repr

/-- What a host can do. -/
inductive Action where
  | append (target : Target) (markup : String)
  | insert (target : Target) (index : Nat) (markup : String)
  | replaceChildren (target : Target) (markup : String)
  | remove (target : Target)
  | setText (target : Target) (text : String)
  | setAttr (target : Target) (name value : String)
  | hold (target : Target) (name : String)
  | contains (target : Target) (node : Option Target)
  | batch (actions : List Action) (raises : Bool)
  | observe (name : String) (roots : List Target) (onCall : List Action)
  | disconnect (name : String)
  | listen (name event : String) (onCall : List Action)
  | unlisten (name event : String)
  | dispatch (event : String)
  | markReady
  | setHidden (hidden : Bool)
  | select (selector : String)
  | info
  | watch (name : String) (selectors : Option (List String)) (blockTags : List String)
  | connect (name : String)
  | unwatch (name : String)
  | watchState (name : String)
  | relevant (name : String) (kind : ChangeKind) (target : Target) (added removed : List Target)
  | notify
  | sweep (reason : String)
  | start
  | stop
  | enter
  | exit
  | advance (ms : Nat)

namespace Action

mutual
/-- How many actions an action consists of. -/
def size : Action → Nat
  | .batch as _ => 1 + sizeOfAll as
  | .observe _ _ as => 1 + sizeOfAll as
  | .listen _ _ as => 1 + sizeOfAll as
  | _ => 1

/-- How many actions a list of actions consists of. -/
def sizeOfAll : List Action → Nat
  | [] => 0
  | a :: r => a.size + sizeOfAll r
end

end Action

/-- Why an action is refused. -/
inductive Refusal where
  /-- The text has no element around it. -/
  | rootless
  /-- The selector selects nothing at all. -/
  | badSelector (cause : Selector.Refusal)
  /-- The delays in the settings are none. -/
  | badDelays
deriving DecidableEq, Repr

/-- What came of an action. -/
inductive Outcome where
  | nothing
  | nodes (ns : List Node)
  | node (n : Option Node)
  | truth (b : Bool)
  | count (n : Nat)
  | names (ns : List String)
  | watching (connected : Bool) (roots : List String)
  | about (ready hidden : Bool) (root : Option String) (body : String)
  | swept (s : Swept)
  /-- The outcomes of a batch. -/
  | several (os : List Outcome)
  /-- The batch was broken off at its end. -/
  | raised
  | refused (r : Refusal)

/-- A record of a change, with its nodes as they are when it is told. -/
structure Seen where
  kind : ChangeKind
  target : Option Node
  added : List Node
  removed : List Node

/-- A call that reached the host. -/
inductive Event where
  | observed (name : String) (records : List Seen)
  | heard (name event : String)
  | changed (name : String)
  | swept
  | due

/-- What the host does when it is to sweep. -/
inductive SweepManner where
  | quiet
  | raises
  | notifies
deriving DecidableEq, Repr

/-- What the host remembers. -/
structure Host where
  sweepManner : SweepManner := .quiet
  /-- The host's own job ends with a notice of a change. -/
  notifiesWhenDue : Bool := false
  /-- The session keeps its page in order with sweeps and a watcher of its own. -/
  keeps : Bool := false
  held : List (String × Nat) := []
  observations : List (String × Nat) := []
  watchers : List (String × Watcher) := []
  /-- What is still to be done at the first call of an observation. -/
  atTelling : List (Nat × List Action) := []
  /-- What is still to be done at the first call of a listener; an empty list once it is done. -/
  atHearing : List (String × List Action) := []
  events : List Event := []

/-- The calls that an action led to are added to those before. -/
def Host.saw (h : Host) (e : Event) : Host := { h with events := h.events ++ [e] }

namespace Script

/-- A session with a scripted host. -/
abbrev Stage := Session Host

/-- The node that a target means. -/
def find? (s : Stage) : Target → Option Nat
  | .held name => s.host.held.lookup name
  | .path is =>
    (is.foldl (fun n i => n.bind fun n => n.children[i]?) (some s.page)).map (·.id)

/-- The node that a target means; the page itself if it means none. -/
def find (s : Stage) (t : Target) : Nat := (find? s t).getD s.page.id

/-- Nodes as they are now. -/
def nodesOf (s : Stage) (ids : List Nat) : List Node := ids.filterMap s.document.forest.node?

/-- The names of elements. -/
def namesOf (s : Stage) (ids : List Nat) : List String := ids.map s.document.forest.nameOf

/-- A record as it is told. -/
def see (s : Stage) (c : Change) : Seen :=
  ⟨c.kind, s.document.forest.node? c.target, nodesOf s c.added, nodesOf s c.removed⟩

/-- The host after a further call. -/
def saw (s : Stage) (e : Event) : Stage := { s with host := s.host.saw e }

/-- The host is told of changes: it remembers them, and acts at the first call. -/
def told (run : List Action → Stage → Stage) (o : Observation Observer) (cs : List Change)
    (s : Stage) : Stage :=
  match o.who with
  | .keeper => s
  | .watcher name tags =>
    let w : Watcher := { blockTags := tags }
    if cs.any (w.minds s.document.forest) then saw s (.changed name) else s
  | .host name =>
    let s := saw s (.observed name (cs.map (see s)))
    let todo := (s.host.atTelling.lookup o.key).getD []
    run todo { s with host := { s.host with atTelling := Pairs.erase s.host.atTelling o.key } }

/-- The host hears an event: it remembers it, and acts at the first call. -/
def heard (run : List Action → Stage → Stage) (name event : String) (s : Stage) : Stage :=
  let s := saw s (.heard name event)
  let todo := (s.host.atHearing.lookup name).getD []
  run todo { s with host := { s.host with atHearing := Pairs.put s.host.atHearing name [] } }

/-- The host sweeps in its manner. -/
def sweep (s : Stage) : Stage × Bool :=
  let s := saw s .swept
  match s.host.sweepManner with
  | .quiet => (s, true)
  | .raises => (s, false)
  | .notifies => (s.notify, true)

/-- The host's job is due. -/
def due (s : Stage) : Stage :=
  let s := saw s .due
  if s.host.notifiesWhenDue then s.notify else s

/-- The host's behaviour, given how it runs its own actions. -/
def hooks (run : List Action → Stage → Stage) : Hooks Host :=
  ⟨told run, heard run, sweep, due⟩

/-- Observes nodes under a name. -/
def observe (name : String) (roots : List Nat) (onCall : List Action) (s : Stage) : Stage :=
  let (document, key) := s.document.observe (.host name) roots
  let host := { s.host with
    observations := Pairs.put s.host.observations name key
    atTelling := s.host.atTelling ++ [(key, onCall)] }
  { s with document, host }

/-- Listens under a name; what is to be done at the first call is settled when the name first
listens. -/
def listen (name event : String) (onCall : List Action) (s : Stage) : Stage :=
  let host := if Pairs.has s.host.atHearing name then s.host
    else { s.host with atHearing := s.host.atHearing ++ [(name, onCall)] }
  { s with document := s.document.listen event (.host name), host }

/-- Replaces a watcher of the host. -/
def withWatcher (s : Stage) (name : String) (w : Watcher) : Stage :=
  { s with host := { s.host with watchers := Pairs.put s.host.watchers name w } }

/-- The watcher of a name. -/
def watcher (s : Stage) (name : String) : Watcher := (s.host.watchers.lookup name).getD {}

/-- Connects a watcher of the host. -/
def connect (name : String) (s : Stage) : Stage :=
  let w := watcher s name
  let (w, document, log) := w.connect (.watcher name w.blockTags) s.document
  (withWatcher { s with document } name w).report log

/-- Disconnects a watcher of the host. -/
def unwatch (name : String) (s : Stage) : Stage :=
  let (w, document) := (watcher s name).disconnect s.document
  withWatcher { s with document } name w

/-- An outcome of nodes that came in. -/
def added (r : Stage × List Nat) : Stage × Outcome :=
  (r.1, .nodes (nodesOf r.1 r.2))

/-- An outcome of starting. -/
def started (success : Outcome) (r : Stage × Bool) : Stage × Outcome :=
  (r.1, if r.2 then success else .refused .badDelays)

/-- Starts whatever the host has: a whole session, or its pacer alone. -/
def start (hooks : Hooks Host) (s : Stage) : Stage × Bool :=
  if s.host.keeps then s.start hooks else s.startPacing

/-- Stops what `start` started. -/
def stop (s : Stage) : Stage :=
  if s.host.keeps then s.stop else s.stopPacing

/-- What a host sees of the page's state. -/
def about (s : Stage) : Outcome :=
  let f := s.document.forest
  .about s.document.ready s.document.hidden ((f.firstNamed? "html").map f.nameOf) (f.nameOf f.body)

/-- The elements that a selector selects. -/
def select (selector : String) (s : Stage) : Outcome :=
  match (Selector.read selector).bind (·.select s.page) with
  | .ok ps => .nodes (ps.map (·.node))
  | .error cause => .refused (.badSelector cause)

/-- Runs one action. The first argument bounds how deep actions lie within actions. -/
def act : Nat → Action → Stage → Stage × Outcome
  | 0, _, s => (s, .nothing)
  | depth + 1, a, s =>
    let hooks := hooks fun as s => as.foldl (fun s a => (act depth a s).1) s
    match a with
    | .append t m => added (s.append hooks (find s t) m)
    | .insert t i m => added (s.insert hooks (find s t) i m)
    | .replaceChildren t m => added (s.replaceChildren hooks (find s t) m)
    | .remove t => (s.remove hooks (find s t), .nothing)
    | .setText t x =>
      match s.setText hooks (find s t) x with
      | some (s, i) => (s, .node (s.document.forest.node? i))
      | none => (s, .refused .rootless)
    | .setAttr t k v =>
      (s.withForest (s.document.forest.modify (find s t) (·.withAttr k (.text v))), .nothing)
    | .hold t name =>
      ({ s with host := { s.host with held := Pairs.put s.host.held name (find s t) } }, .nothing)
    | .contains t n =>
      (s, .truth (n.any fun n => s.document.forest.contains (find s t) (find s n)))
    | .batch as raises =>
      let (s, os) := s.batch hooks fun s =>
        as.foldl (fun r a => let (s, o) := act depth a r.1; (s, r.2 ++ [o])) (s, [])
      (s, .several (if raises then os ++ [.raised] else os))
    | .observe name ts as => (observe name (ts.map (find s)) as s, .nothing)
    | .disconnect name =>
      match s.host.observations.lookup name with
      | some key => ({ s with document := s.document.disconnect key }, .nothing)
      | none => (s, .nothing)
    | .listen name event as => (listen name event as s, .nothing)
    | .unlisten name event =>
      ({ s with document := s.document.unlisten event (.host name) }, .nothing)
    | .dispatch event =>
      let (s, n) := s.dispatch hooks event
      (s, .count n)
    | .markReady => (s.markReady hooks, .nothing)
    | .setHidden b => (s.setHidden hooks b, .nothing)
    | .select sel => (s, select sel s)
    | .info => (s, about s)
    | .watch name sel tags =>
      (withWatcher s name
        { selectors := some (sel.getD Settings.contentSelectors), blockTags := tags }, .nothing)
    | .connect name =>
      let s := connect name s
      (s, .names (namesOf s (watcher s name).roots))
    | .unwatch name => (unwatch name s, .nothing)
    | .watchState name =>
      let w := watcher s name
      (s, .watching w.observation.isSome (namesOf s w.roots))
    | .relevant name kind t add rem =>
      (s, .truth ((watcher s name).minds s.document.forest
        ⟨kind, find s t, add.map (find s), rem.map (find s)⟩))
    | .notify => (s.notify, .nothing)
    | .sweep reason =>
      let (s, r) := s.sweepNow hooks reason
      (s, .swept r)
    | .start => started .nothing (start hooks s)
    | .enter => started (.truth true) (start hooks s)
    | .stop | .exit => (stop s, .nothing)
    | .advance ms => (s.advance hooks ms, .nothing)

/-- Runs one action of a script of `size` actions and whatever is due when it has been run. -/
def step (size : Nat) (a : Action) (s : Stage) : Stage × Outcome :=
  let (s, o) := act (size + 1) a s
  (s.runDue (hooks fun as s => as.foldl (fun s a => (act size a s).1) s), o)

end Script

end StickerPages.Live
