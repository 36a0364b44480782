import Sweep.Host.Workspace

/-!
The arguments of the command line.

General options come first, then an action, then its own options and at most one script. An option
takes its value from the same argument or from the next one, which must not look like an option. An
argument of two dashes ends the options. What is wrong first, or asks for help or the version first,
decides.
-/

namespace Sweep.CommandLine

inductive Flag where
  | root
  | config
  | verbose
  | logFile
  | dryRun
  | exclude
  | help
  | version
  deriving DecidableEq, Repr

namespace Flag

def longName : Flag → Text
  | .root => "root".toList
  | .config => "config".toList
  | .verbose => "verbose".toList
  | .logFile => "log-file".toList
  | .dryRun => "dry-run".toList
  | .exclude => "exclude".toList
  | .help => "help".toList
  | .version => "version".toList

def letter? : Flag → Option Char
  | .root => some 'C'
  | .verbose => some 'v'
  | .exclude => some 'e'
  | .help => some 'h'
  | .version => some 'V'
  | .config | .logFile | .dryRun => none

def takesValue : Flag → Bool
  | .root | .config | .logFile | .exclude => true
  | .verbose | .dryRun | .help | .version => false

def isRepeatable : Flag → Bool
  | .verbose | .exclude => true
  | _ => false

end Flag

/-- What the program can do with a script: carry it out, or only read it and show its plan. -/
inductive Action where
  | run
  | check
  deriving DecidableEq, Repr

def Action.name : Action → Text
  | .run => "run".toList
  | .check => "check".toList

def Action.ofName? (name : Text) : Option Action :=
  [Action.run, .check].find? fun action => action.name == name

def flagsOf : Option Action → List Flag
  | none => [.root, .config, .verbose, .logFile, .help, .version]
  | some .run => [.dryRun, .exclude, .help]
  | some .check => [.help]

structure Setting where
  flag : Flag
  value : Text
  deriving DecidableEq, Repr

inductive GroupEnd where
  | complete
  /-- The value of the last option is the next argument. -/
  | awaits (flag : Flag)
  | unknown
  deriving DecidableEq, Repr

inductive Argument where
  | options (settings : List Setting) (last : GroupEnd)
  | separator
  | word (t : Text)
  deriving DecidableEq, Repr

namespace Argument

/-- An option by its name, with the value behind an equals sign if there is one. -/
def ofName (flags : List Flag) (t : Text) : Argument :=
  let name := t.takeWhile (· != '=')
  let value? := match t.dropWhile (· != '=') with
    | _ :: value => some value
    | [] => none
  match flags.find? (·.longName == name), value? with
  | some flag, some value =>
    if flag.takesValue then .options [⟨flag, value⟩] .complete else .options [] .unknown
  | some flag, none =>
    if flag.takesValue then .options [] (.awaits flag) else .options [⟨flag, []⟩] .complete
  | none, _ => .options [] .unknown

/-- Options by their letters. The first one with a value takes the rest, without an equals sign in
front, or else the next argument. -/
def ofLetters (flags : List Flag) : Text → List Setting × GroupEnd
  | [] => ([], .complete)
  | c :: rest =>
    match flags.find? (·.letter? == some c) with
    | none => ([], .unknown)
    | some flag =>
      if flag.takesValue then
        match rest with
        | [] => ([], .awaits flag)
        | '=' :: value => ([⟨flag, value⟩], .complete)
        | value => ([⟨flag, value⟩], .complete)
      else
        let (settings, last) := ofLetters flags rest
        (⟨flag, []⟩ :: settings, last)

/-- What an argument is, where the given options are known. A single dash is a word. -/
def ofText (flags : List Flag) : Text → Argument
  | ['-', '-'] => .separator
  | '-' :: '-' :: t => ofName flags t
  | ['-'] => .word ['-']
  | '-' :: t =>
    let (settings, last) := ofLetters flags t
    .options settings last
  | t => .word t

end Argument

structure Options where
  root : Option Path := none
  config : Option Path := none
  logFile : Option Path := none
  verbosity : Nat := 0
  script : Option Path := none
  dryRun : Bool := false
  exclude : List Text := []
  deriving DecidableEq, Repr

/-- Why nothing is done with a script. -/
inductive Refusal where
  | usage
  | help
  | version
  deriving DecidableEq, Repr

structure Reading where
  action : Option Action := none
  options : Options := {}
  given : List Flag := []
  awaited : Option Flag := none
  wordsOnly : Bool := false
  deriving DecidableEq, Repr

namespace Reading

def path (t : Text) : Except Refusal Path := if t.isEmpty then .error .usage else .ok ⟨t⟩

def assign (o : Options) (s : Setting) : Except Refusal Options :=
  match s.flag with
  | .root => (path s.value).map fun p => { o with root := some p }
  | .config => (path s.value).map fun p => { o with config := some p }
  | .logFile => (path s.value).map fun p => { o with logFile := some p }
  | .verbose => .ok { o with verbosity := o.verbosity + 1 }
  | .dryRun => .ok { o with dryRun := true }
  | .exclude => .ok { o with exclude := o.exclude ++ [s.value] }
  | .help => .error .help
  | .version => .error .version

def take (r : Reading) (s : Setting) : Except Refusal Reading :=
  if r.given.contains s.flag && !s.flag.isRepeatable then .error .usage
  else (assign r.options s).map fun options => { r with options, given := s.flag :: r.given }

/-- Takes a group of options, up to the first one that is refused. -/
def takeGroup (r : Reading) (last : GroupEnd) : List Setting → Except Refusal Reading
  | [] =>
    match last with
    | .complete => .ok r
    | .awaits flag => .ok { r with awaited := some flag }
    | .unknown => .error .usage
  | s :: others =>
    match r.take s with
    | .ok next => next.takeGroup last others
    | .error refusal => .error refusal

/-- Takes a word: the value of an option, an action, or the script of an action. -/
def takeWord (r : Reading) (t : Text) : Except Refusal Reading :=
  match r.awaited, r.action with
  | some flag, _ => ({ r with awaited := none } : Reading).take ⟨flag, t⟩
  | none, some _ =>
    if r.options.script.isSome then .error .usage
    else (path t).map fun p => { r with options := { r.options with script := some p } }
  | none, none =>
    if r.wordsOnly then .error .usage
    else
      match Action.ofName? t with
      | some action => .ok { r with action := some action }
      | none => .error .usage

def step (r : Reading) (t : Text) : Except Refusal Reading :=
  match if r.wordsOnly then .word t else Argument.ofText (flagsOf r.action) t with
  | .word t => r.takeWord t
  | .separator => if r.awaited.isSome then .error .usage else .ok { r with wordsOnly := true }
  | .options settings last =>
    if r.awaited.isSome then .error .usage else r.takeGroup last settings

/-- The word that asks for help in place of an action. -/
def helpName : Text := "help".toList

/-- Whether an argument stands in place of an action and asks for help. -/
def asksHelp (r : Reading) (t : Text) : Bool :=
  t == helpName && r.awaited.isNone && r.action.isNone && !r.wordsOnly

/-- What comes of asking for help with some topics behind it: there may be one, an action or the
word itself. -/
def helpOn : (topics : List Text) → Refusal
  | [] => .help
  | [topic] => if topic = helpName ∨ (Action.ofName? topic).isSome then .help else .usage
  | _ => .usage

def readAll (r : Reading) : List Text → Except Refusal Reading
  | [] => .ok r
  | t :: others =>
    if r.asksHelp t then
      .error (helpOn others)
    else
      match r.step t with
      | .ok next => next.readAll others
      | .error refusal => .error refusal

def finish (r : Reading) : Except Refusal (Action × Options) :=
  match r.awaited, r.action with
  | none, some action => .ok (action, r.options)
  | _, _ => .error .usage

end Reading

structure Environment where
  root : Option Text := none
  config : Option Text := none
  deriving DecidableEq, Repr

def pathFrom (given : Option Path) (fallback : Option Text) : Except Refusal (Option Path) :=
  match given, fallback with
  | some p, _ => .ok (some p)
  | none, some t => (Reading.path t).map some
  | none, none => .ok none

def versionLine : Text := "batchrep 0.1.0\n".toList

def usageLine : Text :=
  "Usage: batchrep [-C ROOT] [--config FILE] [-v]... [--log-file FILE] ".toList ++
    "(run [--dry-run] [-e GLOB]... | check) [SCRIPT]\n".toList

/-- What the program is asked for: the arguments decide, and where they are silent the environment
does. -/
def parse (environment : Environment) (arguments : List Text) :
    Except Refusal (Action × Options) := do
  let (action, options) ← (← Reading.readAll {} arguments).finish
  let root ← pathFrom options.root environment.root
  let config ← pathFrom options.config environment.config
  pure (action, { options with root, config })

end Sweep.CommandLine
