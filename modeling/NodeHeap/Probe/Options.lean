import NodeHeap.Config
import NodeHeap.Text.Decimal
import NodeHeap.Text.Terminal

/-!
# The command line of the probe

Options are read from the left. An option that takes a value is followed by it, or by `=` and it, and
may be given once. A value is looked at when the next known option is reached, or the end: until then
an argument that is no option wins over a value that is wrong.

* `Request.ofArguments`: what a command line asks for.
* `OptionFault.report`: what is wrong with one that asks for nothing.
-/

namespace NodeHeap.Probe

open Text.Terminal

/-- What a run of the probe is told. -/
structure Options where
  /-- Where the node tree lies. -/
  root : String := systemRoot
  policy : Policy := .default
  localDefault : Bool := false
  /-- The workers of the thread-safety phase; as many as there are processors if none is given. -/
  threads : Option Nat := none
  /-- The blocks of the performance phase. -/
  blocks : Nat := 1000
  /-- The size of each of them. -/
  blockSize : Nat := 1024
  logLevel : String := "info"
  deriving DecidableEq, Repr

/-- An option of the command line. -/
inductive Opt where
  | root
  | policy
  | localDefault
  | threads
  | blocks
  | blockSize
  | logLevel
  | help
  | version
  deriving DecidableEq, Repr

namespace Opt

/-- The options in the order of the help. -/
def all : List Opt :=
  [root, policy, localDefault, threads, blocks, blockSize, logLevel, help, version]

/-- The name of an option, which two hyphens introduce. -/
def name : Opt → String
  | root => "sysfs-root"
  | policy => "policy"
  | localDefault => "local-default"
  | threads => "threads"
  | blocks => "blocks"
  | blockSize => "block-size"
  | logLevel => "log-level"
  | help => "help"
  | version => "version"

/-- The letter of an option, which one hyphen introduces. -/
def letter? : Opt → Option Char
  | help => some 'h'
  | version => some 'V'
  | _ => none

/-- What an option's value is called, if it takes one. -/
def valueName? : Opt → Option String
  | root => some "SYSFS_ROOT"
  | policy => some "POLICY"
  | threads => some "THREADS"
  | blocks => some "BLOCKS"
  | blockSize => some "BLOCK_SIZE"
  | logLevel => some "LOG_LEVEL"
  | localDefault | help | version => none

/-- An option with the name of its value. -/
def usage (o : Opt) : String :=
  "--" ++ o.name ++
    match o.valueName? with
    | some value => s!" <{value}>"
    | none => ""

def ofName? (name : String) : Option Opt := all.find? fun o => o.name = name

def ofLetter? (letter : Char) : Option Opt := all.find? fun o => o.letter? = some letter

end Opt

/-- The filter of the log that options ask for: their level for both parts of the program. -/
def Options.logFilter (options : Options) : String :=
  s!"numalloc_core={options.logLevel},numalloc_probe={options.logLevel}"

/-- What is wrong with a command line. -/
inductive OptionFault where
  | unexpected (argument : String)
  | missingValue (option : Opt)
  | repeated (option : Opt)
  | unneededValue (option : Opt) (value : String)
  | invalidValue (option : Opt) (value reason : String)
  deriving DecidableEq, Repr

/-- The fault in words, for a terminal. -/
def OptionFault.message : OptionFault → String
  | unexpected argument => s!"unexpected argument '{marked argument}' found"
  | missingValue option => s!"a value is required for '{marked option.usage}' but none was supplied"
  | repeated option => s!"the argument '{marked option.usage}' cannot be used multiple times"
  | unneededValue option value =>
    s!"unexpected value '{marked value}' for '{marked option.usage}' found; no more were expected"
  | invalidValue option value reason =>
    s!"invalid value '{marked value}' for '{marked option.usage}': {reason}"

/-- What is said of the fault where there is no terminal. -/
def OptionFault.report (fault : OptionFault) : String :=
  plain ("error: " ++ fault.message ++ "\n\nFor more information, try '" ++
    marked ("--" ++ Opt.help.name) ++ "'.")

/-- What a command line asks for. -/
inductive Request where
  | run (options : Options)
  | help
  | version
  deriving DecidableEq, Repr

/-- The form of an argument. -/
inductive Argument where
  /-- Two hyphens: all that follows is no option. -/
  | escape
  | long (name : String) (value : Option String)
  | short (letter : Char)
  | bare (text : String)
  deriving DecidableEq, Repr

/-- The form of an argument: two hyphens and a name, with a value after the first `=`; one hyphen and
letters, of which the first one counts; anything else. -/
def Argument.ofString (text : String) : Argument :=
  match text.toList with
  | ['-', '-'] => .escape
  | '-' :: '-' :: chars =>
    let name := chars.takeWhile (· ≠ '=')
    .long (String.ofList name)
      (if name.length < chars.length then some (String.ofList (chars.drop (name.length + 1)))
       else none)
  | '-' :: letter :: _ => .short letter
  | _ => .bare text

/-- How far the command line is read. -/
structure Reading where
  options : Options := {}
  /-- The options that were given. -/
  given : List Opt := []
  /-- The option that was named last, and its value if that has been read. -/
  pending : Option (Opt × Option String) := none
  deriving DecidableEq, Repr

/-- The number that an option's value writes. -/
def number (option : Opt) (value : String) : Except OptionFault Nat :=
  match Text.Decimal.parse wordLimit value.toList with
  | .ok n => .ok n
  | .error fault => .error (.invalidValue option value fault.message)

/-- The options with the value of one of them. -/
def Options.assign (options : Options) (option : Opt) (value : String) :
    Except OptionFault Options :=
  match option with
  | .root => if value = "" then .error (.missingValue .root) else .ok { options with root := value }
  | .policy =>
    match Policy.ofName value with
    | .ok policy => .ok { options with policy }
    | .error e => .error (.invalidValue .policy value e.message)
  | .threads => do
    return { options with threads := some (← number .threads value) }
  | .blocks => do
    return { options with blocks := ← number .blocks value }
  | .blockSize => do
    return { options with blockSize := ← number .blockSize value }
  | .logLevel => .ok { options with logLevel := value }
  | .localDefault => .ok { options with localDefault := true }
  | .help | .version => .ok options

namespace Reading

/-- Gives an option, with its value if it takes one. -/
def give (r : Reading) (option : Opt) (value : Option String) : Except OptionFault Reading := do
  let value ← match option.valueName?, value with
    | some _, none => .error (.missingValue option)
    | _, value => .ok (value.getD "")
  if r.given.contains option then .error (.repeated option)
  else
    let options ← r.options.assign option value
    return { r with options, given := option :: r.given }

/-- Gives the option that was named last. -/
def settle (r : Reading) : Except OptionFault Reading :=
  match r.pending with
  | none => .ok r
  | some (option, value) => { r with pending := none }.give option value

/-- What the reading asks for when all arguments are read. -/
def finish (r : Reading) : Except OptionFault Request := do
  let r ← r.settle
  return .run r.options

/-- What the reading and the arguments that follow ask for. -/
def read (r : Reading) : List String → Except OptionFault Request
  | [] => r.finish
  | argument :: rest =>
    match Argument.ofString argument with
    | .escape =>
      match rest with
      | [] => r.finish
      | next :: _ => .error (.unexpected next)
    | .bare text =>
      match r.pending with
      | some (option, none) => { r with pending := some (option, some text) }.read rest
      | _ => .error (.unexpected text)
    | .short letter =>
      match Opt.ofLetter? letter with
      | none => .error (.unexpected (String.ofList ['-', letter]))
      | some option => do
        let _ ← r.settle
        return if option = .help then .help else .version
    | .long name value =>
      match Opt.ofName? name with
      | none => .error (.unexpected ("--" ++ name))
      | some option =>
        match option.valueName?, value with
        | none, some value => .error (.unneededValue option value)
        | some _, none => do
          let r ← r.settle
          { r with pending := some (option, none) }.read rest
        | _, value => do
          let r ← r.settle
          match option with
          | .help => return .help
          | .version => return .version
          | _ =>
            let r ← r.give option value
            r.read rest

end Reading

def Request.ofArguments (arguments : List String) : Except OptionFault Request :=
  Reading.read {} arguments

end NodeHeap.Probe
