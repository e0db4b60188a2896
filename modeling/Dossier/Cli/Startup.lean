import Dossier.Cli.Args
import Dossier.Config.Check
import Dossier.Net.SocketAddress
import Dossier.Store.Location

/-!
# Startup

What a program checks before it begins its work: its configuration, for the server the addresses
that it listens on, and that the store can be opened.
-/

namespace Dossier.Cli

open Net

/-- Why a program does not begin its work. -/
inductive StartError where
  | load (cause : Config.LoadError)
  | badAddress
  | exposedHttp
  | exposedAdmin
  | noStore
deriving DecidableEq

/-- The wording of a failure to begin. -/
def StartError.message : StartError → String
  | load cause => cause.message
  | badAddress => SocketAddress.parseMessage
  | exposedHttp => "http_bind must be a loopback address when bind_localhost_only is true."
  | exposedAdmin => "admin_bind must be a loopback address."
  | noStore => "The store cannot be opened."

/-- The addresses that the server listens on, for requests and for administration. -/
def addresses (cfg : Config) : Except StartError (SocketAddress × SocketAddress) := do
  let some http := SocketAddress.parse cfg.service.httpBind | throw .badAddress
  let some admin := SocketAddress.parse cfg.service.adminBind | throw .badAddress
  if cfg.security.bindLocalhostOnly && !http.ip.isLoopback then throw .exposedHttp
  if !admin.ip.isLoopback then throw .exposedAdmin
  return (http, admin)

/-- The directory that has to be there for a store, if it lies in a file. -/
def storeDirectory? (cfg : Config) : Option String :=
  match Store.Location.parse cfg.store.dsn with
  | some (.file path _) => some (Store.Location.directory path)
  | _ => none

/-- The configuration that a program begins its work with; `text` is the text of its file, if it can
be read. -/
def start (program : Program) (path : String) (text : Option String)
    (directoryExists : String → Bool) : Except StartError Config := do
  let cfg ← (Config.load path text).mapError .load
  match program with
  | .api => let _ ← addresses cfg
  | .worker => pure ()
  if (Store.Location.parse cfg.store.dsn).any (·.canOpen directoryExists) then return cfg
  else throw .noStore

end Dossier.Cli
