import Seismicity.Decimal.Reading
import Seismicity.Double.Arithmetic
import Seismicity.Source.Point

/-!
# Command-Line Arguments

What a command line asks for. Options have a long name and most also a letter;
letters may be joined, and a value may follow its option directly, after an
equals sign, or as the next argument. An argument that starts with a dash is
never taken for the value of the option before it. No option may be given
twice.

## Main definitions

* `Request`: What is to be done with a model.
* `Invocation`: A request, with the options that all requests share.
* `Arguments.parse`: The invocation that arguments stand for.
-/

namespace Seismicity

/-- What is to be done with a model. -/
inductive Request where
  /-- Summarise the sources. -/
  | info
  /-- Collapse nearby sources, by the grid spacing given or by the model's. -/
  | collapse (spacing : Option Float) (json : Bool)
  /-- Write the ruptures of one source. -/
  | ruptures (id : String) (options : RuptureOptions Float) (averaged : Bool)
      (limit : Option Nat)

/-- A request for the model in a file, with the options that all requests
    share. -/
structure Invocation where
  path : String
  request : Request
  verbose : Bool
  threads : Option Nat

namespace Arguments

/-- Why no invocation results: help or the version is asked for, or the arguments
    are wrong. -/
inductive Refusal where
  | help
  | version
  | usage
  deriving DecidableEq, Repr

/-- What an option takes. -/
inductive Value where
  | nothing
  | text
  | number
  | count
  deriving DecidableEq

/-- An option: its long name, its letter, and what it takes. -/
structure Flag where
  name : String
  letter : Option Char
  value : Value

/-- The options that all requests share. -/
def sharedFlags : List Flag :=
  [ { name := "verbose", letter := some 'v', value := .nothing },
    { name := "threads", letter := some 't', value := .count },
    { name := "help", letter := some 'h', value := .nothing } ]

/-- The options before the name of a request. -/
def topFlags : List Flag :=
  sharedFlags ++ [{ name := "version", letter := some 'V', value := .nothing }]

/-- The names of the requests, with their options. -/
def requests : List (String × List Flag) :=
  [ ("info", []),
    ("collapse",
      [ { name := "grid-spacing", letter := some 'g', value := .number },
        { name := "json", letter := none, value := .nothing } ]),
    ("ruptures",
      [ { name := "source-id", letter := some 's', value := .text },
        { name := "mag", letter := some 'm', value := .number },
        { name := "point-rup", letter := none, value := .nothing },
        { name := "shift-hypo", letter := none, value := .nothing },
        { name := "averaged", letter := none, value := .nothing },
        { name := "limit", letter := some 'l', value := .count } ]) ]

/-- The line that answers a question for the version. -/
def versionLine : String := "hazard-points 0.1.0"

/-- The options given so far, with their values, in order. -/
abbrev Given := List (String × String)

namespace Given

/-- The option was given. -/
def has (given : Given) (name : String) : Bool := given.any fun option => option.1 == name

/-- The value of an option that was given. -/
def value? (given : Given) (name : String) : Option String :=
  (given.find? fun option => option.1 == name).map Prod.snd

end Given

/-- A value fits what its option takes. -/
def fits (flag : Flag) (text : String) : Bool :=
  match flag.value with
  | .nothing | .text => true
  | .number => (Decimal.read? text).isSome
  | .count => (Decimal.readCount? text).isSome

/-- Records an option with its value. -/
def record (flag : Flag) (text : String) (given : Given) : Except Refusal Given :=
  if flag.name = "help" then .error .help
  else if flag.name = "version" then .error .version
  else if given.has flag.name || !fits flag text then .error .usage
  else .ok (given ++ [(flag.name, text)])

/-- Reads the letters of a joined argument. The first option that takes a value
    takes the rest of the letters; if there are none, it waits for the next
    argument. -/
def readLetters (flags : List Flag) : List Char → Given → Except Refusal (Given × Option Flag)
  | [], given => .ok (given, none)
  | c :: rest, given =>
    match flags.find? fun flag => flag.letter == some c with
    | none => .error .usage
    | some flag =>
      if flag.value = .nothing then
        match record flag "" given with
        | .error refusal => .error refusal
        | .ok given => readLetters flags rest given
      else
        match rest with
        | [] => .ok (given, some flag)
        | '=' :: value => (record flag (String.ofList value) given).map fun given => (given, none)
        | value => (record flag (String.ofList value) given).map fun given => (given, none)

/-- Reads a long option, with its value if an equals sign is in it. -/
def readLong (flags : List Flag) (cs : List Char) (given : Given) :
    Except Refusal (Given × Option Flag) :=
  let name := String.ofList (cs.takeWhile (· != '='))
  match flags.find? fun flag => flag.name == name, cs.dropWhile (· != '=') with
  | none, _ => .error .usage
  | some flag, [] =>
    if flag.value = .nothing then (record flag "" given).map fun given => (given, none)
    else .ok (given, some flag)
  | some flag, _ :: value =>
    if flag.value = .nothing then .error .usage
    else (record flag (String.ofList value) given).map fun given => (given, none)

/-- Reads options, up to the first argument that is neither an option nor the
    value of one. `waiting` is the option whose value comes next. Gives the
    remaining arguments, and whether a double dash came before them. -/
def readOptions (flags : List Flag) (waiting : Option Flag) (given : Given) :
    List String → Except Refusal (Given × List String × Bool)
  | [] =>
    match waiting with
    | none => .ok (given, [], false)
    | some _ => .error .usage
  | arg :: rest =>
    match arg.toList, waiting with
    | ['-', '-'], none => .ok (given, rest, true)
    | '-' :: '-' :: cs, none =>
      match readLong flags cs given with
      | .error refusal => .error refusal
      | .ok (given, waiting) => readOptions flags waiting given rest
    | '-' :: c :: cs, none =>
      match readLetters flags (c :: cs) given with
      | .error refusal => .error refusal
      | .ok (given, waiting) => readOptions flags waiting given rest
    | '-' :: _ :: _, some _ => .error .usage
    | _, none => .ok (given, arg :: rest, false)
    | _, some flag =>
      match record flag arg given with
      | .error refusal => .error refusal
      | .ok given => readOptions flags none given rest

/-- Reads the arguments of a request: its options, and among them the path of
    the model. After a double dash, an argument is no option. -/
def readPath (flags : List Flag) (args : List String) : Except Refusal (Given × String) :=
  match readOptions flags none [] args with
  | .error refusal => .error refusal
  | .ok (given, [path], true) => .ok (given, path)
  | .ok (given, path :: rest, false) =>
    match readOptions flags none given rest with
    | .error refusal => .error refusal
    | .ok (given, [], _) => .ok (given, path)
    | .ok _ => .error .usage
  | .ok _ => .error .usage

/-- The request that the options of its name stand for. -/
def requestOf (name : String) (given : Given) : Except Refusal Request :=
  let number? (name : String) : Option Float := (given.value? name).bind Decimal.read?
  if name = "info" then .ok .info
  else if name = "collapse" then .ok (.collapse (number? "grid-spacing") (given.has "json"))
  else
    match given.value? "source-id" with
    | none => .error .usage
    | some id =>
      .ok
        (.ruptures id
          { magnitude := number? "mag"
            asPoint := given.has "point-rup"
            shift := given.has "shift-hypo" }
          (given.has "averaged")
          ((given.value? "limit").bind Decimal.readCount?))

/-- What asking for help on the named request leads to. There is help on help,
    too. -/
def helpOn : List String → Refusal
  | [] => .help
  | [name] => if name = "help" || requests.any fun r => r.1 == name then .help else .usage
  | _ => .usage

/-- The invocation that arguments stand for. Options that all requests share may
    stand before or after the name of the request; the number of threads after
    it counts. -/
def parse (args : List String) : Except Refusal Invocation :=
  match readOptions topFlags none [] args with
  | .error refusal => .error refusal
  | .ok (top, name :: rest, false) =>
    if name = "help" then .error (helpOn rest)
    else
      match requests.find? fun request => request.1 == name with
      | none => .error .usage
      | some (name, flags) =>
        match readPath (flags ++ sharedFlags) rest with
        | .error refusal => .error refusal
        | .ok (given, path) =>
          (requestOf name given).map fun request =>
            { path := path
              request := request
              verbose := top.has "verbose" || given.has "verbose"
              threads :=
                ((given.value? "threads").or (top.value? "threads")).bind Decimal.readCount? }
  | .ok _ => .error .usage

end Arguments

end Seismicity
