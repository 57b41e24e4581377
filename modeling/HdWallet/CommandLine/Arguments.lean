/-
Reading the arguments, one after the other from the left: words that lead to a command, flags,
and settings with their values, attached or in the next argument. The first argument that
fits nowhere ends the reading, as does a question for the version or for help.
-/
import HdWallet.CommandLine.Setting

namespace HdWallet.CommandLine

/-- Why the arguments ask for no action. -/
inductive Stop where
  /-- They are not understood. -/
  | usage
  /-- They ask for the version, at a level. -/
  | version (level : Level)
  /-- They ask for help. -/
  | help
deriving DecidableEq, Repr

/-- What an argument with options leaves behind: what is given by now, and the setting whose
value is to be the next argument. -/
abbrev Step := Given × Option Setting

/-- Whether an argument can only be an option, or the mark that ends the options. -/
def isOption (arg : List Char) : Bool :=
  match arg with
  | '-' :: _ :: _ => true
  | _ => false

/-- Records a value that stands in the argument of its setting. -/
def attach (given : Given) (setting : Setting) (value : List Char) : Except Stop Step :=
  match given.record? setting (String.ofList value) with
  | some given => .ok (given, none)
  | none => .error .usage

/-- Records the flag for more output. -/
def verbose (given : Given) : Except Stop Given :=
  match given.recordVerbose? with
  | some given => .ok given
  | none => .error .usage

/-- Reads a long option, less its hyphens: a name, and a value behind the first `=`. Flags take
no value. -/
def readLong (level : Level) (given : Given) (body : List Char) : Except Stop Step :=
  let name := String.ofList (body.takeWhile (· ≠ '='))
  match name, body.dropWhile (· ≠ '=') with
  | "verbose", [] => (verbose given).map (·, none)
  | "version", [] => .error (.version level)
  | "help", [] => .error .help
  | name, rest =>
    match level.settings.find? fun setting => setting.long = name, rest with
    | some setting, '=' :: value => attach given setting value
    | some setting, _ => .ok (given, some setting)
    | none, _ => .error .usage

/-- Reads a cluster of short options, less its hyphen: any flags, then at most one setting,
which takes the rest of the cluster as its value, less a leading `=`. -/
def readShort (level : Level) (given : Given) : List Char → Except Stop Step
  | [] => .ok (given, none)
  | 'v' :: rest => do
    let given ← verbose given
    readShort level given rest
  | 'V' :: _ => .error (.version level)
  | 'h' :: _ => .error .help
  | letter :: rest =>
    match level.settings.find? fun setting => setting.short = letter, rest with
    | some setting, [] => .ok (given, some setting)
    | some setting, '=' :: value => attach given setting value
    | some setting, value => attach given setting value
    | none, _ => .error .usage

/-- Reads an argument of options. -/
def readOption (level : Level) (given : Given) : List Char → Except Stop Step
  | '-' :: '-' :: body => readLong level given body
  | arg => readShort level given (arg.drop 1)

/-- The words behind `help` have to lead somewhere. -/
def readHelp (level : Level) : List String → Stop
  | [] => .help
  | word :: rest =>
    match level.next? word with
    | some level => readHelp level rest
    | none => .usage

/-- Reads the arguments from a level on. `pending` is the setting whose value comes next. -/
def readArguments (level : Level) (pending : Option Setting) (given : Given) :
    List String → Except Stop (Action × Given)
  | [] =>
    match level, pending with
    | .action command, none => .ok (command, given)
    | _, _ => .error .usage
  | arg :: rest =>
    match pending with
    | some setting =>
      if isOption arg.toList then .error .usage
      else match given.record? setting arg with
        | some given => readArguments level none given rest
        | none => .error .usage
    | none =>
      if arg = "--" then
        match level, rest with
        | .action command, [] => .ok (command, given)
        | _, _ => .error .usage
      else if isOption arg.toList then do
        let (given, pending) ← readOption level given arg.toList
        readArguments level pending given rest
      else match level, level.next? arg with
        | _, some level => readArguments level none {} rest
        | .action _, none => .error .usage
        | level, none => .error (if arg = "help" then readHelp level rest else .usage)

end HdWallet.CommandLine
