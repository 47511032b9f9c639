import SolveTls.Base.Machine

/-! The MongoDB client that the storage owns: its calls, from one await to the next. -/

namespace SolveTls

namespace Storage

/-- A client of the driver; they are numbered as they are constructed. -/
abbrev MongoClient := Nat

/-- What a call raises. -/
inductive Raised where
  | cancelled
  | timeout (message : String)
  /-- Any other exception of the driver or of the document layer. -/
  | driver (message : String)
  deriving DecidableEq, Repr

/-- How far a `_close_with_timeout` task has come. -/
inductive Progress where
  | created
  /-- It awaits `client.close()`. -/
  | closing
  | done
  deriving DecidableEq, Repr

/-- A task that closes a client. -/
structure ClosingTask where
  client : MongoClient
  progress : Progress := .created
  deriving DecidableEq, Repr

/-- How a call ended. -/
inductive Outcome where
  | closed (result : Except Raised Unit)
  | initialized (result : Except Raised Bool)
  deriving Repr

/-- Who called `_close_client`, with what it still has to do. -/
inductive Caller where
  | closeStorage
  /-- The first line of `init_storage`. -/
  | initStorage (connectionString : String)
  /-- The `finally` clause of `init_storage`, entered with this outcome. -/
  | cleanup (outcome : Except Raised Bool)
  deriving Repr

/-- Where the running call is suspended. -/
inductive Point where
  /-- No call is running; the last one ended so. -/
  | idle (last : Option Outcome)
  /-- The first `await shield(closing)` of `_close_client`. -/
  | shielded (closing : Nat) (caller : Caller)
  /-- The same await in the loop that follows a cancellation. -/
  | cancelled (closing : Nat) (caller : Caller)
  /-- `await init_beanie(...)` -/
  | initBeanie (client : MongoClient)
  deriving Repr

/-- The module's globals, with the tasks it has created and the call that is running. -/
structure World where
  enabled : Bool := false
  client : Option MongoClient := none
  /-- How many clients were ever constructed. -/
  constructed : Nat := 0
  /-- All the tasks ever created, oldest first. -/
  closings : List ClosingTask := []
  point : Point := .idle none
  deriving Repr

/-- What the driver makes of a connection string. -/
inductive Construction where
  | failed (raised : Raised)
  /-- The client is there, but `get_default_database()` raises. -/
  | withoutDatabase (raised : Raised)
  | built
  deriving DecidableEq, Repr

/-- The task has run to its end. -/
def World.isDone (world : World) (closing : Nat) : Bool :=
  (world.closings[closing]?.map ClosingTask.progress) = some .done

/-- The task that closes the client is created and awaited. -/
def closeClient (client : MongoClient) (caller : Caller) (world : World) : World :=
  { world with
    closings := world.closings ++ [{ client }]
    point := .shielded world.closings.length caller }

/-- `init_storage` ends; an expired deadline is raised again under its own message. -/
def leaveInit (outcome : Except Raised Bool) (world : World) : World :=
  let outcome := match outcome with
    | .error (.timeout _) => .error (.timeout "MongoDB initialization exceeded 5 seconds")
    | outcome => outcome
  { world with point := .idle (some (.initialized outcome)) }

/-- The `finally` clause of `init_storage`, entered with its local `client`. -/
def finallyClause (client : Option MongoClient) (outcome : Except Raised Bool) (world : World) :
    World :=
  match client with
  | none => leaveInit outcome world
  | some client =>
    if !world.enabled then closeClient client (.cleanup outcome) world
    else leaveInit outcome world

/-- What `init_storage` does once `close_storage` has returned. -/
def resumeInit (connectionString : String) (construction : Construction) (world : World) : World :=
  if connectionString.isEmpty then
    { world with point := .idle (some (.initialized (.ok false))) }
  else
    match construction with
    | .failed raised => finallyClause none (.error raised) world
    | .withoutDatabase raised =>
      finallyClause (some world.constructed) (.error raised)
        { world with constructed := world.constructed + 1 }
    | .built =>
      { world with
        constructed := world.constructed + 1
        point := .initBeanie world.constructed }

/-- `_close_client` has returned, or there was nothing to close. -/
def resumeCaller (caller : Caller) (construction : Construction) (world : World) : World :=
  match caller with
  | .closeStorage => { world with point := .idle (some (.closed (.ok ()))) }
  | .initStorage connectionString => resumeInit connectionString construction world
  | .cleanup outcome => leaveInit outcome world

/-- `_close_client` has raised the cancellation. -/
def cancelCaller (caller : Caller) (world : World) : World :=
  match caller with
  | .closeStorage => { world with point := .idle (some (.closed (.error .cancelled))) }
  | .initStorage _ => { world with point := .idle (some (.initialized (.error .cancelled))) }
  | .cleanup _ => leaveInit (.error .cancelled) world

/-- `close_storage`, on behalf of a caller. -/
def closeStorage (caller : Caller) (construction : Construction) (world : World) : World :=
  let disabled := { world with enabled := false, client := none }
  match world.client with
  | none => resumeCaller caller construction disabled
  | some client => closeClient client caller disabled

/-- A cancellation reaches `await shield(closing)`: the task goes on, and is awaited again. -/
def cancelShield (closing : Nat) (caller : Caller) (world : World) : World :=
  if world.isDone closing then cancelCaller caller world
  else { world with point := .cancelled closing caller }

/-- What happens next: a call by the program, a move of a task, or the end of an await.

The construction is what the driver answers where the code that runs then asks it. -/
inductive Event where
  | initStorage (connectionString : String) (construction : Construction)
  | closeStorage
  /-- The task runs for the first time and calls `client.close()`. -/
  | closeStarts (closing : Nat)
  /-- `client.close()` returns, or raises what the task only logs. -/
  | closeEnds (closing : Nat) (result : Except Raised Unit)
  /-- The awaited task is done. -/
  | closeAwaited (construction : Construction)
  | beanieReturns
  /-- An error of `init_beanie`, or the deadline around it. -/
  | beanieRaises (raised : Raised)
  /-- The calling task is cancelled at its await. -/
  | cancel
  deriving Repr

/-- Move a task on when it is where the move starts. -/
def World.advance (world : World) (closing : Nat) (before after : Progress) : Option World :=
  match world.closings[closing]? with
  | none => none
  | some task =>
    if task.progress = before then
      some { world with closings := world.closings.set closing { task with progress := after } }
    else none

/-- One event, from the await it finds the call at to the next one. -/
def step (world : World) : Event → Option World
  | .initStorage connectionString construction =>
    match world.point with
    | .idle _ => some (closeStorage (.initStorage connectionString) construction world)
    | _ => none
  | .closeStorage =>
    match world.point with
    | .idle _ => some (closeStorage .closeStorage .built world)
    | _ => none
  | .closeStarts closing => world.advance closing .created .closing
  | .closeEnds closing _ => world.advance closing .closing .done
  | .closeAwaited construction =>
    match world.point with
    | .shielded closing caller =>
      if world.isDone closing then some (resumeCaller caller construction world) else none
    | .cancelled closing caller =>
      if world.isDone closing then some (cancelCaller caller world) else none
    | _ => none
  | .beanieReturns =>
    match world.point with
    | .initBeanie client =>
      some (finallyClause (some client) (.ok true)
        { world with client := some client, enabled := true })
    | _ => none
  | .beanieRaises raised =>
    match world.point with
    | .initBeanie client => some (finallyClause (some client) (.error raised) world)
    | _ => none
  | .cancel =>
    match world.point with
    | .shielded closing caller | .cancelled closing caller =>
      some (cancelShield closing caller world)
    | .initBeanie client => some (finallyClause (some client) (.error .cancelled) world)
    | .idle _ => none

/-- The storage module of a process, from its import on. -/
def machine : Machine World Event where
  start := {}
  step := step

end Storage

end SolveTls
