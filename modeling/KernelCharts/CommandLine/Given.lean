import KernelCharts.CommandLine.Option

/-!
# Reading options

The arguments of a command are read from left to right. The value of an option is looked at only when
the next option or the end of the arguments is reached, so an argument that is not known is told
before a bad value that stands just ahead of it.

* `Given` — the options given so far;
* `Token` — what an argument looks like;
* `readOptions` — the options of some arguments, up to the name of a command.
-/

namespace KernelCharts.CommandLine

/-- the options given so far, with their values, and the option that waits for its value to be looked
at -/
structure Given where
  values : List (String × String)
  pending : Option (OptionSpec × Option String)
deriving DecidableEq, Repr

namespace Given

def none : Given := ⟨[], Option.none⟩

/-- the values of an option, in the order in which they are given -/
def all (given : Given) (long : String) : List String :=
  (given.values.filter (·.1 == long)).map (·.2)

/-- the value of an option that is given once at most -/
def get? (given : Given) (long : String) : Option String := (given.all long).head?

def has (given : Given) (long : String) : Bool := given.values.any (·.1 == long)

/-- an option takes effect with its value -/
def add (given : Given) (option : OptionSpec) (value : Option String) : Except UsageError Given :=
  let store (value : String) : Given :=
    { given with values := given.values ++ [(option.long, value)] }
  match option.action with
  | .help => .error .helpAsked
  | .version => .error .versionAsked
  | .flag => if given.has option.long then .error .repeated else .ok (store "")
  | .set kind =>
    match value with
    | .none => .error .noValue
    | some value =>
      if given.has option.long then .error .repeated
      else do
        kind.check value
        return store value
  | .append kind =>
    match value with
    | .none => .error .noValue
    | some value => do
      kind.check value
      return store value

/-- the option that waits takes effect -/
def settle (given : Given) : Except UsageError Given :=
  match given.pending with
  | .none => .ok given
  | some (option, value) => add { given with pending := .none } option value

/-- an option is given, with an attached value or without one. An option that takes a value waits for
it if none is attached. -/
def give (given : Given) (option : OptionSpec) (attached : Option String) :
    Except UsageError Given :=
  match option.kind?, attached with
  | .none, some _ => .error .unneededValue
  | .none, .none | some _, some _ => do (← given.settle).add option attached
  | some _, .none => do return { ← given.settle with pending := some (option, .none) }

/-- the option that waits for its value, if none has come yet -/
def waiting? (given : Given) : Option OptionSpec :=
  match given.pending with
  | some (option, .none) => some option
  | _ => .none

end Given

/-! ## Arguments -/

inductive Token where
  /-- two dashes: all that follows are values -/
  | escape
  /-- the long name of an option, with an attached value or without one -/
  | long (name : String) (value : Option String)
  /-- the short names of some options, the last one possibly with a value -/
  | short (flags : List Char)
  | value (text : String)
deriving DecidableEq, Repr

def Token.ofString (arg : String) : Token :=
  match arg.toList with
  | ['-', '-'] => .escape
  | '-' :: '-' :: rest =>
    let name := rest.takeWhile (· ≠ '=')
    match rest.dropWhile (· ≠ '=') with
    | _ :: attached => .long (String.ofList name) (some (String.ofList attached))
    | [] => .long (String.ofList name) none
  | '-' :: c :: rest => .short (c :: rest)
  | _ => .value arg

/-- the value attached to a short name: what follows it, without an equals sign -/
def attachedValue (rest : List Char) : Option String :=
  if rest.isEmpty then none else some (String.ofList (Text.dropFirst '=' rest))

/-- some short names are given; the first that takes a value takes what follows it -/
def giveShort (options : List OptionSpec) (given : Given) :
    List Char → Except UsageError Given
  | [] => .ok given
  | c :: rest =>
    match options.find? (·.short == some c) with
    | none => .error .unknownArgument
    | some option =>
      if option.kind?.isSome then given.give option (attachedValue rest)
      else do giveShort options (← given.give option none) rest

inductive Ending where
  /-- at the end of the arguments -/
  | finished
  /-- at the name of a command, with the arguments after it -/
  | command (name : String) (rest : List String)
deriving DecidableEq, Repr

/-- the options of some arguments, up to the name of a command. `escaped` tells whether two dashes
came before. -/
def readOptions (options : List OptionSpec) (commands : List String) (escaped : Bool)
    (given : Given) : List String → Except UsageError (Given × Ending)
  | [] => .ok (given, .finished)
  | arg :: args =>
    let stray : Except UsageError (Given × Ending) :=
      if commands.isEmpty || (escaped && commands.contains arg) then .error .unknownArgument
      else .error .unknownCommand
    if escaped then stray
    else if given.waiting?.isNone && commands.contains arg then .ok (given, .command arg args)
    else match Token.ofString arg with
      | .escape => readOptions options commands true given args
      | .long name value =>
        match options.find? (·.long == name) with
        | none => .error .unknownArgument
        | some option => do readOptions options commands false (← given.give option value) args
      | .short flags => do
        readOptions options commands false (← giveShort options given flags) args
      | .value text =>
        match given.waiting? with
        | some option =>
          readOptions options commands false { given with pending := some (option, text) } args
        | none => stray

end KernelCharts.CommandLine
