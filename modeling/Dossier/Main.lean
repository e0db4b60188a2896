import Dossier.Cli.Startup
import Dossier.Service.Defaults
import Dossier.Service.Route
import Dossier.Service.Subscribers
import Std.Time.DateTime.Timestamp

/-!
# The programs

The first argument names the program, and the others are its arguments.  `api` answers requests that
come in as JSON, one a line, and lets the subscribers work between them; `worker` works off the
backlog.  Both keep their store in memory, and nobody listens where they look for an embedding
service.
-/

namespace Dossier.Cli

/-- The program of a name. -/
def program? (name : String) : Option Program :=
  if name == "api" then some .api else if name == "worker" then some .worker else none

/-- The request that a line stands for, and the surface that it comes in on. -/
def incoming? (line : String) : Option (Http.Surface × Http.Request) := do
  let j ← Json.parse line
  let text (name : String) : Option String := (j.field? name).bind Json.asString
  let admin := ((j.field? "admin").bind Json.asBool).getD false
  return (if admin then .administrators else .everybody, {
    method := (text "method").getD "GET"
    target := ← text "target"
    contentType := text "content_type"
    authorization := text "authorization"
    body := (text "body").getD "" })

/-- The line that a response is written as. -/
def outgoing (r : Http.Response) : String :=
  (Json.obj [("body", r.body.getD .null), ("status", .nat r.status)]).print

/-- The point in time that it is now. -/
def now : IO Instant := do return ⟨(← Std.Time.Timestamp.now).toNanosecondsSinceUnixEpoch.toInt⟩

/-- A number of 128 bits drawn at random. -/
def randomNumber : IO Nat := do
  return (← IO.getRandomBytes 16).foldl (fun n b => 256 * n + b.toNat) 0

/-- The names of those directories among some that can be opened. -/
def reachable (names : List String) : IO (List String) :=
  names.filterM fun name => do
    match ← (IO.FS.Handle.mk name .read).toBaseIO with
    | .ok _ => return true
    | .error _ => return false

/-- The world at the beginning, in which both subscribers listen. -/
def world (cfg : Config) (start : Instant) : World Unit :=
  let memory := Memory.fresh cfg.embedding.dimensions
  let bus := (memory.bus.subscribe .ingested "embedder").subscribe .changed "reindexer"
  ⟨{}, { memory with bus }, 0, start, false, ()⟩

/-- Answers a request and lets the subscribers work. -/
def step (svc : Service Unit) (surface : Http.Surface) (req : Http.Request) :
    Action Unit Http.Response := do
  let response ← svc.respond surface req
  svc.runReindexer "reindexer"
  let _ ← svc.runEmbedder "embedder"
  return response

/-- Answers requests until the input ends. -/
partial def serve (svc : Service Unit) (input : IO.FS.Stream) (w : World Unit) : IO Unit := do
  let line ← input.getLine
  if line.isEmpty then return ()
  let w := { w with now := ← now }
  match incoming? line with
  | none =>
    IO.println (outgoing (.bare 400))
    serve svc input w
  | some (surface, req) =>
    let (result, w) : Except ServiceError Http.Response × World Unit := (step svc surface req).run w
    match result with
    | .ok response => IO.println (outgoing response)
    | .error e => IO.println (outgoing (.ofError e))
    serve svc input w

/-- Works off the backlog, pass after pass. -/
partial def work (svc : Service Unit) (args : Args) (w : World Unit) : IO Unit := do
  let (_, w) : Except ServiceError Unit × World Unit := (svc.runWorker 1).run { w with now := ← now }
  if args.once then return ()
  IO.sleep (UInt32.ofNat args.intervalMs)
  work svc args w

/-- Runs a program with its arguments and gives its exit code. -/
def run (program : Program) (argv : List String) : IO UInt32 := do
  match Args.parse program argv with
  | .error e =>
    if e.isAnswer then
      IO.println e.message
      return 0
    else
      IO.eprintln ("error: " ++ e.message)
      return 2
  | .ok args =>
    let text := match ← (IO.FS.readFile args.config).toBaseIO with
      | .ok text => some text
      | .error _ => none
    let wanted := match Config.load args.config text with
      | .ok cfg => (storeDirectory? cfg).toList
      | .error _ => []
    let there ← reachable wanted
    match start program args.config text there.contains with
    | .error e =>
      IO.eprintln ("Error: " ++ e.message)
      return 1
    | .ok cfg =>
      let seed ← randomNumber
      let fresh (n : Nat) : Id := ⟨(seed + n) % twoTo 128⟩
      let svc := Service.withDefaults cfg fresh Embedding.unanswered
      let w := world cfg (← now)
      match program with
      | .api => serve svc (← IO.getStdin) w
      | .worker => work svc args w
      return 0

end Dossier.Cli

/-- Runs the program that the first argument names. -/
def main (argv : List String) : IO UInt32 := do
  match argv with
  | name :: rest =>
    match Dossier.Cli.program? name with
    | some program => Dossier.Cli.run program rest
    | none =>
      IO.eprintln "error: the program is api or worker"
      return 2
  | [] =>
    IO.eprintln "error: the program is api or worker"
    return 2
