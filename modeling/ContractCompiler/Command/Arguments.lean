import ContractCompiler.Layout.Path

/-!
# Command lines

A command is given by its name and options. Every option but `--module` is given at most once, and a
value that starts with a dash has to be attached by `=`. What the command line leaves open is taken
from the environment.

The model of `Cli`, `Commands` and `ProjectArgs`.
-/

namespace ContractCompiler

/-- The project that a command works on (`ProjectArgs`). -/
structure ProjectArguments where
  /-- Where the contract documents are. -/
  contracts : Path
  /-- What output directories are relative to. -/
  root : Path
  /-- The configuration file. -/
  config? : Option Path
  /-- The names of the optional modules. -/
  modules : List String
deriving DecidableEq, Repr

/-- What is asked for (`Commands`). -/
inductive Command where
  | compile (project : ProjectArguments)
  /-- The manifest pass alone. -/
  | manifest (project : ProjectArguments)
  | validate (contracts : Path)
deriving DecidableEq, Repr

/-- The variables that commands look at. -/
structure Environment where
  root? : Option String
  config? : Option String
deriving DecidableEq, Repr

namespace Command

structure Options where
  verbose : Bool
  contracts? : Option String
  root? : Option String
  config? : Option String
  modules : List String
deriving DecidableEq, Repr

namespace Options

def none : Options := ⟨false, .none, .none, .none, []⟩

/-- A value for an option that is given once. -/
def once (value : String) : Option String → Option (Option String)
  | .none => some (some value)
  | some _ => .none

/-- The options with one more, when the command takes it and it may be given. -/
def set? (o : Options) (takesProject : Bool) (name value : String) : Option Options :=
  if name = "--contracts" then (once value o.contracts?).map fun v => { o with contracts? := v }
  else if !takesProject then .none
  else if name = "--root" then (once value o.root?).map fun v => { o with root? := v }
  else if name = "--config" then (once value o.config?).map fun v => { o with config? := v }
  else if name = "--module" then some { o with modules := o.modules ++ [value] }
  else .none

/-- The options with a request for more log output, which is made once. -/
def setVerbose? (o : Options) : Option Options := if o.verbose then .none else some { o with verbose := true }

end Options

/-- Asks for more log output. -/
def isVerboseFlag (argument : String) : Bool := argument == "-v" || argument == "--verbose"

/-- The argument can be the value of the option before it. -/
def isValue (argument : String) : Bool := argument == "-" || argument.toList.head? != some '-'

/-- The parts of an argument before and after its first equals sign. -/
def splitAtEquals (argument : String) : String × Option String :=
  let name := argument.toList.takeWhile (· != '=')
  match argument.toList.drop name.length with
  | [] => (argument, none)
  | _ :: value => (String.ofList name, some (String.ofList value))

/-- Reads the options after a command's name. -/
def readOptions (takesProject : Bool) (o : Options) : List String → Option Options
  | [] => some o
  | [argument] =>
    if argument = "--" then some o
    else if isVerboseFlag argument then o.setVerbose?
    else
      match splitAtEquals argument with
      | (name, some value) => o.set? takesProject name value
      | (_, none) => none
  | argument :: next :: rest =>
    if isVerboseFlag argument then
      match o.setVerbose? with
      | some o => readOptions takesProject o (next :: rest)
      | none => none
    else
      match splitAtEquals argument with
      | (name, some value) =>
        match o.set? takesProject name value with
        | some o => readOptions takesProject o (next :: rest)
        | none => none
      | (name, none) =>
        if !isValue next then none
        else
          match o.set? takesProject name next with
          | some o => readOptions takesProject o rest
          | none => none

/-- A path is never empty. -/
def path? (text : String) : Option Path := if text.isEmpty then none else some ⟨text⟩

/-- A path that may be left open. -/
def optionalPath? : Option String → Option (Option Path)
  | none => some none
  | some text => (path? text).map some

def project? (environment : Environment) (o : Options) : Option ProjectArguments :=
  match o.contracts?.bind path?, path? ((o.root?.or environment.root?).getD "."),
      optionalPath? (o.config?.or environment.config?) with
  | some contracts, some root, some config? => some ⟨contracts, root, config?, o.modules⟩
  | _, _, _ => none

/-- The command with the given name and options. -/
def named? (environment : Environment) (name : String) (arguments : List String) : Option Command :=
  if name = "compile" then
    ((readOptions true .none arguments).bind (project? environment)).map .compile
  else if name = "manifest" then
    ((readOptions true .none arguments).bind (project? environment)).map .manifest
  else if name = "validate" then
    ((readOptions false .none arguments).bind fun o => o.contracts?.bind path?).map .validate
  else none

/-- The command that a command line asks for; none when it is not understood. -/
def ofArguments? (environment : Environment) : List String → Option Command
  | [] => none
  | [_] => none
  | first :: name :: rest =>
    if isVerboseFlag first then named? environment name rest
    else named? environment first (name :: rest)

end Command

end ContractCompiler
