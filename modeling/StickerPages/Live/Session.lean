import StickerPages.Live.Watcher
import StickerPages.Timing.Pacer

/-!
# A page kept in order

A session keeps a document in order while it changes. A watcher tells a pacer of changes that matter,
the pacer decides when to sweep, and a sweep sorts the stickers of the whole page anew. Sweeps also
come when the reader has navigated, and when the page comes back into view.

The program around the page, its *host*, may observe and listen too, and may do anything to the
session when it is called. What it does is a parameter, `Hooks`; what it remembers is the field
`host`, of any type `τ`. A session without a host has `τ := Unit` and hooks that do nothing.
-/

namespace StickerPages.Live

open Markup Timing

/-- Who listens to events. -/
inductive Listener where
  /-- The session, until the page is ready. -/
  | ready
  /-- The session, for a navigation. -/
  | navigation
  /-- The session, for the page's coming into view. -/
  | visibility
  /-- The host, by a name of its own. -/
  | host (name : String)
deriving DecidableEq, Repr

/-- Who observes nodes. -/
inductive Observer where
  /-- The session's watcher. -/
  | keeper
  /-- The host, by a name of its own. -/
  | host (name : String)
  /-- A watcher of the host, which goes by these block names. -/
  | watcher (name : String) (blockTags : List String)
deriving DecidableEq, Repr

/-- Whose job is due. -/
inductive Duty where
  | sweep (task : Task)
  | host
deriving DecidableEq, Repr

/-- Who sweeps. -/
inductive Sweeper where
  | page
  | host
deriving DecidableEq, Repr

/-- What came of a sweep. -/
inductive Swept where
  /-- The page was swept. -/
  | counted (stats : Layout.Stats)
  /-- The host has swept. -/
  | byHost
  | failed
deriving DecidableEq, Repr

/-- A document, the parts that keep it in order, and the host's memory. -/
structure Session (τ : Type) where
  document : Document Listener Observer
  settings : Settings.Layout
  sweeper : Sweeper
  /-- The timer is the session's own. -/
  owned : Bool
  timer : Timer Duty
  pacer : Pacer
  watcher : Watcher
  log : Log
  host : τ

/-- What the host does when it is called. -/
structure Hooks (τ : Type) where
  /-- It is told of changes. -/
  told : Observation Observer → List Change → Session τ → Session τ
  /-- It hears an event. -/
  heard : String → String → Session τ → Session τ
  /-- It is to sweep; the answer says whether it could. -/
  sweep : Session τ → Session τ × Bool
  /-- Its job is due. -/
  due : Session τ → Session τ

/-- A host that does nothing. -/
def Hooks.idle {τ : Type} : Hooks τ := ⟨fun _ _ s => s, fun _ _ s => s, fun s => (s, true), id⟩

namespace Session

variable {τ : Type}

/-- Adds reports. -/
def report (s : Session τ) (log : Log) : Session τ := { s with log := s.log ++ log }

/-- The page as it stands. -/
def page (s : Session τ) : Node := s.document.forest.page

/-- Changes the forest alone. -/
def withForest (s : Session τ) (f : Forest) : Session τ :=
  { s with document := { s.document with forest := f } }

/-! ## Sweeps -/

/-- Why a sweep is impossible, in words. -/
def faultText : Layout.Fault → String
  | .sizeNotText => "尺寸不是文字"
  | .namesNotListed => "區塊標籤不是列表"

/-- Reports that a sweep failed. -/
def sweepFailed (s : Session τ) (reason cause : String) : Session τ :=
  s.report [⟨.error, "表情掃描失敗 (" ++ reason ++ "): " ++ cause⟩]

/-- Sweeps now, for a reason that is counted even if the sweep fails. -/
def sweepNow (hooks : Hooks τ) (reason : String) (s : Session τ) : Session τ × Swept :=
  let s := { s with pacer := s.pacer.count reason }
  match s.sweeper with
  | .page =>
    match Layout.sweepUnder s.settings s.page with
    | .ok (page, stats) => ({ s with document := s.document.withPage page }, .counted stats)
    | .error f => (s.sweepFailed reason (faultText f), .failed)
  | .host =>
    match hooks.sweep s with
    | (s, true) => (s, .byHost)
    | (s, false) => (s.sweepFailed reason reason, .failed)

/-- How long the pacer waits for changes to calm down. -/
def debounce (s : Session τ) : Nat := s.settings.debounceMs.whole.toNat

/-- Takes a notice of a change. -/
def notify (s : Session τ) : Session τ :=
  let (pacer, timer) := Pacer.notify s.debounce Duty.sweep (s.pacer, s.timer)
  { s with pacer, timer }

/-! ## Telling of changes -/

/-- Tells one observer of the changes that it observes, if there are any. -/
def tellOne (hooks : Hooks τ) (cs : List Change) (s : Session τ) (o : Observation Observer) :
    Session τ :=
  match o.matching s.document.forest cs with
  | [] => s
  | matched =>
    match o.who with
    | .keeper => if matched.any (s.watcher.minds s.document.forest) then s.notify else s
    | .host _ | .watcher .. => hooks.told o matched s

/-- Tells everyone who observes when the telling starts, one after the other. -/
def tell (hooks : Hooks τ) (s : Session τ) (cs : List Change) : Session τ :=
  s.document.observations.foldl (tellOne hooks cs) s

/-- Records a change of the document and tells what is to be told now. -/
def post (hooks : Hooks τ) (s : Session τ) (f : Forest) (c : Change) : Session τ :=
  let (document, now) := ({ s.document with forest := f } : Document _ _).record c
  tell hooks { s with document } now

/-- Appends markup to an element. -/
def append (hooks : Hooks τ) (target : Nat) (markup : String) (s : Session τ) :
    Session τ × List Nat :=
  let (f, c) := s.document.forest.appendMarkup target markup
  (s.post hooks f c, c.added)

/-- Inserts markup in front of a child of an element. -/
def insert (hooks : Hooks τ) (target index : Nat) (markup : String) (s : Session τ) :
    Session τ × List Nat :=
  let (f, c) := s.document.forest.insertMarkup target index markup
  (s.post hooks f c, c.added)

/-- Puts markup in the place of an element's children. -/
def replaceChildren (hooks : Hooks τ) (target : Nat) (markup : String) (s : Session τ) :
    Session τ × List Nat :=
  let (f, c) := s.document.forest.replaceChildren target markup
  (s.post hooks f c, c.added)

/-- Takes a node off the page. -/
def remove (hooks : Hooks τ) (target : Nat) (s : Session τ) : Session τ :=
  match s.document.forest.remove target with
  | (f, some c) => s.post hooks f c
  | (_, none) => s

/-- Replaces a text; refused for a node with no element around it. -/
def setText (hooks : Hooks τ) (target : Nat) (text : String) (s : Session τ) :
    Option (Session τ × Nat) :=
  (s.document.forest.setText target text).map fun (f, c) => (s.post hooks f c, c.target)

/-- Runs an activity as a batch: what it changes is told at its end. -/
def batch {α : Type} (hooks : Hooks τ) (activity : Session τ → Session τ × α) (s : Session τ) :
    Session τ × α :=
  let (document, outer) := s.document.openBatch
  let (s, a) := activity { s with document }
  if outer then
    let (document, now) := s.document.closeBatch
    (tell hooks { s with document } now, a)
  else (s, a)

/-! ## Starting and stopping -/

/-- The events that announce a navigation. -/
def navigations (s : Session τ) : List String :=
  (Layout.names? s.settings.navigationEvents).getD []

/-- The event of the page's coming into view or going out of it. -/
def visibilityEvent : String := "visibilitychange"

/-- The event of the page's having been read to its end. -/
def readyEvent : String := "DOMContentLoaded"

/-- Listens to the events that call for a sweep. -/
def subscribe (s : Session τ) : Session τ :=
  if s.pacer.listening then s
  else
    let d := s.navigations.foldl (fun d e => d.listen e .navigation) s.document
    { s with
      document := d.listen visibilityEvent .visibility
      pacer := { s.pacer with listening := true } }

/-- Listens no more. -/
def unsubscribe (s : Session τ) : Session τ :=
  if s.pacer.listening then
    let d := s.navigations.foldl (fun d e => d.unlisten e .navigation) s.document
    { s with
      document := d.unlisten visibilityEvent .visibility
      pacer := { s.pacer with listening := false } }
  else s

/-- The delays in the settings, up to the first thing that is none; the second part says whether all
of them are delays. -/
def delays (s : Session τ) : List Nat × Bool :=
  match s.settings.delayedSweepsMs.items? with
  | some xs =>
    ((xs.takeWhile (·.whole?.isSome)).map (·.whole.toNat), xs.all (·.whole?.isSome))
  | none => ([], false)

/-- Starts the pacer: jobs for the delays, and listening. Refused when the delays are none, but not
before the timer is at work. -/
def startPacing (s : Session τ) : Session τ × Bool :=
  let (delays, sound) := s.delays
  let (pacer, timer) := Pacer.start delays Duty.sweep (s.pacer, s.timer)
  let s := { s with pacer, timer }
  if sound then (s.subscribe.report [⟨.info, "表情重新分類排程器已啟動"⟩], true)
  else (s, false)

/-- Stops the pacer. -/
def stopPacing (s : Session τ) : Session τ :=
  let s := s.unsubscribe
  let (pacer, timer) := Pacer.stop s.owned (s.pacer, s.timer)
  { s with pacer, timer }.report [⟨.info, "表情重新分類排程器已關閉"⟩]

/-- Connects the watcher to the page as it stands. -/
def connect (s : Session τ) : Session τ :=
  let (watcher, document, log) := s.watcher.connect .keeper s.document
  { s with watcher, document }.report log

/-- Disconnects the watcher. -/
def disconnect (s : Session τ) : Session τ :=
  let (watcher, document) := s.watcher.disconnect s.document
  { s with watcher, document }

/-- The first sweep of a ready page, and the watcher's connection. -/
def engage (hooks : Hooks τ) (s : Session τ) : Session τ :=
  let s := (s.sweepNow hooks "load").1.connect
  s.report [⟨.info, "表情版面引擎已初始化，觀察 " ++ toString s.watcher.roots.length ++ " 個區域"⟩]

/-- Starts to keep the page in order, as soon as the page is ready. -/
def start (hooks : Hooks τ) (s : Session τ) : Session τ × Bool :=
  match s.startPacing with
  | (s, false) => (s, false)
  | (s, true) =>
    (if s.document.ready then s.engage hooks
     else { s with document := s.document.listen readyEvent .ready }, true)

/-- Stops to keep the page in order. -/
def stop (s : Session τ) : Session τ :=
  { s with document := s.document.unlisten readyEvent .ready }.disconnect.stopPacing

/-! ## Events -/

/-- What a listener does when it hears an event. -/
def hear (hooks : Hooks τ) (event : String) (s : Session τ) (l : Listener) : Session τ :=
  match l with
  | .ready => { s with document := s.document.unlisten readyEvent .ready }.engage hooks
  | .navigation => (s.sweepNow hooks event).1
  | .visibility => if s.document.hidden then s else (s.sweepNow hooks event).1
  | .host name => hooks.heard name event s

/-- Calls everyone who listens when the event comes; the answer is how many they were. -/
def dispatch (hooks : Hooks τ) (event : String) (s : Session τ) : Session τ × Nat :=
  let ls := s.document.listenersOf event
  (ls.foldl (hear hooks event) s, ls.length)

/-- The page has been read to its end. -/
def markReady (hooks : Hooks τ) (s : Session τ) : Session τ :=
  if s.document.ready then s
  else (dispatch hooks readyEvent { s with document := { s.document with ready := true } }).1

/-- The page goes out of view or comes back. -/
def setHidden (hooks : Hooks τ) (hidden : Bool) (s : Session τ) : Session τ :=
  (dispatch hooks visibilityEvent { s with document := { s.document with hidden } }).1

/-! ## Time -/

/-- Does what is due. -/
def perform (hooks : Hooks τ) (s : Session τ) (d : Duty) : Session τ :=
  match d with
  | .sweep .debounced =>
    (sweepNow hooks "debounce" { s with pacer := Pacer.settle (s.pacer, s.timer) }).1
  | .sweep .delayed => (sweepNow hooks "delayed" s).1
  | .host => hooks.due s

/-- Takes out the jobs of one instant and runs them. Jobs that they add wait from the instant at
which the alarm was set before. -/
def runInstant (hooks : Hooks τ) (instant : Nat) (s : Session τ) : Session τ :=
  let since := s.timer.since
  let (jobs, timer) := { s.timer with now := instant }.takeDue instant
  let s := (jobs.map (·.task)).foldl (perform hooks) { s with timer }
  { s with timer := { s.timer with since } }

/-- Runs the jobs that are due up to an instant, each at its time, in at most so many rounds. -/
def runRounds (hooks : Hooks τ) : Nat → Nat → Session τ → Session τ
  | 0, _, s => s
  | rounds + 1, instant, s =>
    match s.timer.nextRung? instant with
    | some due => runRounds hooks rounds instant (s.runInstant hooks (max s.timer.now due))
    | none => s

/-- Runs what is due now. -/
def runDue (hooks : Hooks τ) (s : Session τ) : Session τ :=
  runRounds hooks (s.timer.jobs.length + 2) s.timer.now s

/-- Lets time pass. Jobs run at the instants at which they are due, and these lie at least a
millisecond apart, jobs without a delay excepted. -/
def advance (hooks : Hooks τ) (ms : Nat) (s : Session τ) : Session τ :=
  let instant := s.timer.now + ms
  let s := runRounds hooks (2 * ms + s.timer.jobs.length + 2) instant s
  { s with timer := { s.timer with now := instant } }

end Session

end StickerPages.Live
