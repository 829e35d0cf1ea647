import UpnpBind.Model.Builder
import UpnpBind.Fetch.Basic

/-!
# Walking a device tree

A walk visits every service of a device tree in preorder, fetches the
service's description from the base URL followed by the service's description
path, and builds its unit. It succeeds only if every service does: then the
units are added to the output set in visiting order, each unit's action names
going to the set's envelope names. A failure leaves the set as it was.

A walk runs under a context that may be cancelled from outside at any time,
and stays cancelled once it is: each visit finds it live or cancelled as it is
at that visit (`Walker.Context`). A visit under a cancelled context fails
before it fetches.

Below a parallelism of 2 the services are visited one by one, and the first
failure ends the walk. From 2 on, each service is visited by a task of a
group, and at most that many tasks are active at once. The walk's loop starts
the tasks in visiting order; a task checks the group's context, fetches,
builds, and stores its result in its own slot. The first error a task returns
is the group's error and cancels the group's context, so later checks fail
and fetches see a cancelled request. Once every task has finished, the walk
fails with the group's error, or merges the slots in visiting order.

How the tasks interleave is up to the scheduler. A run of the group is a list
of moves, each advancing one task by one step, starting the next task or
cancelling the context from outside; a move that is not enabled changes
nothing. The walk itself runs the group in visiting order, one task after
another, with the context cancelled before the task of the first visit that
finds it cancelled. A walk logs each fetch, each action a
build completes, and each unit built.
-/

namespace UpnpBind

open UpnpBind.Description UpnpBind.Model

/-- How a device tree is walked. -/
structure Walker where
  /-- The URL each service's description path is appended to. -/
  base : String := ""
  builder : Builder := {}
  /-- How many services may be visited at once; below 2, one after another. -/
  parallelism : Int := 0
deriving Inhabited

namespace Walker

/-- The line logged for each action a build completes. -/
def actionLine (svc : Service) (m : ActionModel) : Logged Unit :=
  Logged.verbose 2 "builder.go" 79 (svc.serviceType ++ ": action " ++ m.name ++ ": " ++
    toString m.parameters.length ++ " parameters, " ++ toString m.responseFields.length ++ " response fields")

/-- The URL of a visited service's description. -/
def url (w : Walker) (v : Visit) : String := w.base ++ v.service.scpdUrl

/-- Fetches the description of a visited service, logging the fetch. -/
def fetchDescription (w : Walker) (fetch : Fetch.Fetcher) (v : Visit) : Logged String := do
  Logged.verbose 1 "walker.go" 103 ("fetching SCPD for " ++ v.service.serviceType ++ " from " ++ w.url v)
  fetch (w.url v)

/-- The unit of a visited service and its action names, from the text of its
description. -/
def buildVisit (w : Walker) (v : Visit) (text : String) : Logged (ServiceUnit × NameSet) := do
  let doc ← match ServiceDescription.read text with
    | .ok d => pure d
    | .error f => throw (.context (w.url v) (.failure f))
  if v.service.token.toBool then
    (w.builder.completed doc v.service doc.actions).forM (actionLine v.service)
  match w.builder.unit doc v.service with
  | .ok (u, names) =>
    Logged.verbose 1 "walker.go" 122 ("service unit " ++ u.name ++ " built: " ++ toString u.actions.length ++ " actions")
    pure ({ u with device := v.device.friendlyName }, names)
  | .error f => throw (.failure f)

/-- The error of a visit under a cancelled context. -/
def canceledError : Error := .plain Fetch.canceledMessage

/-- The context of a walk as its visits find it, in visiting order: live, or
cancelled from outside from some visit on. -/
structure Context where
  /-- The position of the first visit that finds the context cancelled, if any. -/
  cancelledFrom : Option Nat := none
deriving DecidableEq, Repr, Inhabited

namespace Context

/-- A context never cancelled. -/
def live : Context := {}

/-- A context cancelled before the walk, or never. -/
def ofCancelled (cancelled : Bool) : Context := if cancelled then ⟨some 0⟩ else live

/-- Whether the visit at position `i` finds the context cancelled. -/
def cancelledAt (c : Context) (i : Nat) : Bool :=
  match c.cancelledFrom with
  | some k => decide (k ≤ i)
  | none => false

end Context

/-- The unit of one visited service and its action names. -/
def visit (w : Walker) (fetch : Fetch.Fetcher) (cancelled : Bool) (v : Visit) :
    Logged (ServiceUnit × NameSet) := do
  if cancelled then throw canceledError
  let text ← w.fetchDescription fetch v
  w.buildVisit v text

/-- Adds a built unit and its action names to the set. -/
def merge (o : OutputSet) (built : ServiceUnit × NameSet) : OutputSet :=
  (o.addNames built.2.names).addUnits [built.1]

/-- The visit of a service at a position, under the context as it finds it there. -/
def visitAt (w : Walker) (fetch : Fetch.Fetcher) (ctx : Context) (v : Visit × Nat) :
    Logged (ServiceUnit × NameSet) :=
  w.visit fetch (ctx.cancelledAt v.2) v.1

/-- The units of the services of a tree in visiting order, with their names. -/
def visitAll (w : Walker) (fetch : Fetch.Fetcher) (ctx : Context) (root : Device) :
    Logged (List (ServiceUnit × NameSet)) :=
  root.visits.zipIdx.mapM (w.visitAt fetch ctx)

/-- Walks the tree one service after another: on success, every unit and its
action names added in visiting order. -/
def walkInOrder (w : Walker) (fetch : Fetch.Fetcher) (ctx : Context) (root : Device) (out : OutputSet) :
    Logged OutputSet := do
  let built ← w.visitAll fetch ctx root
  return built.foldl merge out

/-! ## Visiting services concurrently -/

/-- Where the task visiting one service stands. -/
inductive Task where
  /-- Not started by the walk's loop yet. -/
  | waiting
  /-- Started; it checks the group's context next. -/
  | started
  /-- The context was live; it fetches the description next. -/
  | checked
  /-- The fetch returned; it builds the unit next. -/
  | fetched (text : Except Error String)
  /-- The visit returned; it records its error, if any, next. -/
  | returned (result : Except Error (ServiceUnit × NameSet))
  /-- Done, its result in its slot. -/
  | finished (result : Except Error (ServiceUnit × NameSet))
deriving Inhabited

namespace Task

/-- Whether the task holds one of the group's places. -/
def isActive : Task → Bool
  | .waiting | .finished _ => false
  | _ => true

/-- Whether the task is done. -/
def isFinished : Task → Bool
  | .finished _ => true
  | _ => false

/-- The unit and names the task stored in its slot. -/
def slot : Task → Option (ServiceUnit × NameSet)
  | .finished (.ok built) => some built
  | _ => none

end Task

/-- One step of a concurrent walk. -/
inductive Move where
  /-- The context is cancelled from outside. -/
  | cancel
  /-- The loop starts the next task, once fewer tasks than the limit are active. -/
  | start
  /-- Task `i` checks the group's context. -/
  | check (i : Nat)
  /-- Task `i` fetches its description; the fetcher returns `ifCancelled` when the
  group's context is cancelled by then. -/
  | fetch (i : Nat) (ifCancelled : Except Error String)
  /-- Task `i` builds its unit from the fetched text. -/
  | build (i : Nat)
  /-- Task `i` finishes: its error, if it is the first, becomes the group's. -/
  | finish (i : Nat)
deriving Inhabited

/-- The state of a concurrent walk: one task per visited service, whether the
context was cancelled from outside, the group's error, and the log. -/
structure Group where
  tasks : List Task
  cancelled : Bool := false
  /-- The first error a task returned; it cancels the group's context. -/
  error : Option Error := none
  log : Array LogLine := #[]
deriving Inhabited

namespace Group

/-- A group of `n` tasks none of which has started. -/
def init (n : Nat) (log : Array LogLine) : Group := { tasks := List.replicate n .waiting, log }

/-- Whether the group's context is cancelled: from outside, or by the group's error. -/
def isCancelled (g : Group) : Bool := g.cancelled || g.error.isSome

/-- The number of tasks holding a place. -/
def active (g : Group) : Nat := g.tasks.countP Task.isActive

/-- Whether every task is done. -/
def finished (g : Group) : Bool := g.tasks.all Task.isFinished

/-- Sets the state of task `i`. -/
def setTask (g : Group) (i : Nat) (t : Task) : Group := { g with tasks := g.tasks.set i t }

/-- Runs a logged step from the group's log: its result, with the log it leaves. -/
def runLogged {α : Type} (g : Group) (m : Logged α) : Except Error α × Group :=
  let (r, log) := (ExceptT.run m).run g.log
  (r, { g with log })

/-- Advances the group by one move; a move that is not enabled changes nothing. -/
def step (w : Walker) (fetch : Fetch.Fetcher) (limit : Nat) (visits : List Visit) (g : Group) : Move → Group
  | .cancel => { g with cancelled := true }
  | .start =>
    match g.tasks.findIdx? (fun | .waiting => true | _ => false) with
    | some i => if g.active < limit then g.setTask i .started else g
    | none => g
  | .check i =>
    match g.tasks[i]? with
    | some .started =>
      if g.isCancelled then g.setTask i (.returned (.error canceledError)) else g.setTask i .checked
    | _ => g
  | .fetch i ifCancelled =>
    match g.tasks[i]?, visits[i]? with
    | some .checked, some v =>
      let fetcher : Fetch.Fetcher := if g.isCancelled then fun _ => Logged.ofExcept ifCancelled else fetch
      let (r, g') := g.runLogged (w.fetchDescription fetcher v)
      g'.setTask i (.fetched r)
    | _, _ => g
  | .build i =>
    match g.tasks[i]?, visits[i]? with
    | some (.fetched r), some v =>
      let (res, g') := g.runLogged (do w.buildVisit v (← Logged.ofExcept r))
      g'.setTask i (.returned res)
    | _, _ => g
  | .finish i =>
    match g.tasks[i]? with
    | some (.returned r) =>
      { g.setTask i (.finished r) with error := g.error <|> (match r with | .error e => some e | .ok _ => none) }
    | _ => g

/-- Runs a list of moves in order. -/
def run (w : Walker) (fetch : Fetch.Fetcher) (limit : Nat) (visits : List Visit) (g : Group)
    (moves : List Move) : Group :=
  moves.foldl (step w fetch limit visits) g

/-- What the walk does once the group is done: fails with the group's error, or
merges the slots in visiting order. -/
def outcome (g : Group) (out : OutputSet) : Except Error OutputSet :=
  match g.error with
  | some e => .error e
  | none => .ok ((g.tasks.filterMap Task.slot).foldl merge out)

/-- The moves of `n` tasks run one after another in visiting order, with the
context cancelled from outside just before the task of the first visit that
finds it cancelled. -/
def inOrder (ctx : Context) (n : Nat) : List Move :=
  (List.range n).flatMap fun i =>
    (if ctx.cancelledFrom = some i then [.cancel] else []) ++
      [.start, .check i, .fetch i (.error canceledError), .build i, .finish i]

end Group

/-- Walks the tree with a group of tasks, at most `parallelism` active at once,
run in visiting order. -/
def walkGroup (w : Walker) (fetch : Fetch.Fetcher) (ctx : Context) (root : Device) (out : OutputSet) :
    Logged OutputSet := do
  let visits := root.visits
  let g := Group.run w fetch w.parallelism.toNat visits (Group.init visits.length (← get))
    (Group.inOrder ctx visits.length)
  set g.log
  Logged.ofExcept (g.outcome out)

/-- Walks the tree at `root` into `out`: on success, every unit and its action
names added in visiting order. -/
def walk (w : Walker) (fetch : Fetch.Fetcher) (ctx : Context) (root : Device) (out : OutputSet) :
    Logged OutputSet :=
  if w.parallelism < 2 then w.walkInOrder fetch ctx root out else w.walkGroup fetch ctx root out

end Walker

end UpnpBind
