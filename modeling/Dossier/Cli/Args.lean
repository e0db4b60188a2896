import Dossier.Number.Power

/-!
# Command lines

The two programs take the path of their configuration; the worker besides takes the pause between
two passes and whether to make one pass only.  Arguments are read from left to right.  The value of
an option is checked when the next option begins or the line ends.
-/

namespace Dossier.Cli

/-- The programs. -/
inductive Program where
  | api
  | worker
deriving DecidableEq, Repr

/-- The version that the programs report. -/
def Program.versionText : Program → String
  | api => "evi-api 0.1.0"
  | worker => "evi-worker 0.1.0"

/-- Why a command line is not carried out. -/
inductive ArgError where
  | missingRequired
  | invalidValue
  | valueValidation
  | tooManyValues
  | conflict
  | unknown
  | displayHelp
  | displayVersion (text : String)
deriving DecidableEq

/-- The wording of a refusal. -/
def ArgError.message : ArgError → String
  | missingRequired => "a configuration is required: --config FILE"
  | invalidValue => "an option lacks its value"
  | valueValidation => "the interval is not a number"
  | tooManyValues => "an option takes no value"
  | conflict => "an option is given twice"
  | unknown => "an argument is unknown"
  | displayHelp => "--config FILE [--interval-ms MS] [--once]"
  | displayVersion text => text

/-- Does a refusal only tell what was asked for? -/
def ArgError.isAnswer : ArgError → Bool
  | displayHelp | displayVersion _ => true
  | _ => false

/-- The options of the programs. -/
inductive Opt where
  | config
  | intervalMs
  | once
  | help
  | version
deriving DecidableEq, Repr

namespace Opt

/-- Does the option take a value? -/
def takesValue : Opt → Bool
  | config | intervalMs => true
  | _ => false

/-- The option of a long name. -/
def ofLong? (program : Program) (name : String) : Option Opt :=
  match name with
  | "config" => some config
  | "help" => some help
  | "version" => some version
  | "interval-ms" => if program = .worker then some intervalMs else none
  | "once" => if program = .worker then some once else none
  | _ => none

/-- The option of a letter. -/
def ofShort? : Char → Option Opt
  | 'c' => some config
  | 'h' => some help
  | 'V' => some version
  | _ => none

end Opt

/-- What a command line asks for. -/
structure Args where
  config : String
  intervalMs : Nat
  once : Bool
deriving DecidableEq

/-- What has been read so far.  `pending` is an option whose value has not been checked, with the
value if it has been read. -/
structure Reading where
  config : Option String := none
  intervalMs : Option Nat := none
  once : Bool := false
  pending : Option (Opt × Option String) := none

/-- A number of 64 bits; a plus sign may stand before it. -/
def readInterval (s : String) : Option Nat :=
  let cs := match s.toList with
    | '+' :: rest => rest
    | cs => cs
  if cs.isEmpty || !cs.all Char.isDigit then none
  else
    let n := cs.foldl (fun n c => 10 * n + (c.toNat - '0'.toNat)) 0
    if n < twoTo 64 then some n else none

/-- An option with its value taken in. -/
def Reading.accept (r : Reading) (opt : Opt) (value : Option String) : Except ArgError Reading :=
  match opt, value with
  | .config, none => .error .invalidValue
  | .intervalMs, none => .error .invalidValue
  | .config, some v =>
    if r.config.isSome then .error .conflict
    else if v.isEmpty then .error .invalidValue
    else .ok { r with config := some v }
  | .intervalMs, some v =>
    if r.intervalMs.isSome then .error .conflict
    else match readInterval v with
      | some n => .ok { r with intervalMs := some n }
      | none => .error .valueValidation
  | .once, _ => if r.once then .error .conflict else .ok { r with once := true }
  | _, _ => .ok r

/-- The pending option checked. -/
def Reading.settle (r : Reading) : Except ArgError Reading :=
  match r.pending with
  | none => .ok r
  | some (opt, value) => ({ r with pending := none } : Reading).accept opt value

/-- An option without a value taken in. -/
def Reading.flag (program : Program) (r : Reading) (opt : Opt) : Except ArgError Reading := do
  let r ← r.settle
  match opt with
  | .help => .error .displayHelp
  | .version => .error (.displayVersion program.versionText)
  | opt => r.accept opt none

/-- An option that takes a value, which may be attached to it. -/
def Reading.valued (r : Reading) (opt : Opt) (attached : Option String) : Except ArgError Reading := do
  let r ← r.settle
  match attached with
  | some v => r.accept opt (some v)
  | none => .ok { r with pending := some (opt, none) }

/-- An argument that begins with two hyphens. -/
def Reading.long (program : Program) (r : Reading) (body : List Char) : Except ArgError Reading :=
  let name := String.ofList (body.takeWhile (· ≠ '='))
  let attached := match body.dropWhile (· ≠ '=') with
    | _ :: rest => some (String.ofList rest)
    | [] => none
  match Opt.ofLong? program name with
  | none => .error .unknown
  | some opt =>
    if opt.takesValue then r.valued opt attached
    else if attached.isSome then .error .tooManyValues
    else r.flag program opt

/-- The letters of an argument that begins with one hyphen. -/
def Reading.short (program : Program) (r : Reading) : List Char → Except ArgError Reading
  | [] => .ok r
  | c :: rest =>
    match Opt.ofShort? c with
    | none => .error .unknown
    | some opt =>
      if opt.takesValue then
        match rest with
        | [] => r.valued opt none
        | '=' :: v => r.valued opt (some (String.ofList v))
        | v => r.valued opt (some (String.ofList v))
      else do (← r.flag program opt).short program rest

/-- The arguments taken in from left to right. -/
def Reading.all (program : Program) : Reading → List String → Except ArgError Reading
  | r, [] => r.settle
  | r, arg :: rest =>
    match arg.toList with
    | ['-', '-'] => if rest.isEmpty then r.settle else .error .unknown
    | '-' :: '-' :: body => do (← r.long program body).all program rest
    | '-' :: c :: cs => do (← r.short program (c :: cs)).all program rest
    | _ =>
      match r.pending with
      | some (opt, none) => ({ r with pending := some (opt, some arg) } : Reading).all program rest
      | _ => .error .unknown

/-- What a command line asks for. -/
def Args.parse (program : Program) (argv : List String) : Except ArgError Args := do
  let r ← Reading.all program {} argv
  match r.config with
  | none => .error .missingRequired
  | some config => .ok ⟨config, r.intervalMs.getD 500, r.once⟩

end Dossier.Cli
