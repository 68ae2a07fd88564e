import DumpKeeper.Text.Digits
import DumpKeeper.Text.Quoted

/-!
# Arguments of the command line

The program takes four options.  An option may be shortened as long as it is clear which one is
meant, and the value of an option may follow it or stand in the same argument.

* `Flag`, `spellings` — the options, and how they are written.
* `Word` — what an argument is taken for.
* `Arguments`, `Asked` — the arguments understood, or what is to be done instead.
* `Arguments.parse` — arguments read from first to last.
-/

set_option autoImplicit false

namespace DumpKeeper.CommandLine

/-- The name of the program. -/
def program : String := "redis-vault"

/-- The version of the program. -/
def version : String := "0.3.0"

/-- The path of the configuration if none is given. -/
def defaultPath : String := "config.yaml"

/-- The options. -/
inductive Flag where
  | help
  | config
  | once
  | version
  deriving DecidableEq, Repr, Inhabited

/-- The spellings of the options. -/
def spellings : List (String × Flag) :=
  [("-h", .help), ("--help", .help), ("-c", .config), ("--config", .config), ("--once", .once),
   ("--version", .version)]

/-- The option `f` as messages show it. -/
def Flag.shown (f : Flag) : String :=
  "/".intercalate ((spellings.filter (·.2 == f)).map (·.1))

/-- Whether the option `f` has a value; only one has. -/
def Flag.hasValue (f : Flag) : Bool := f == .config

/-- Why arguments are refused. -/
inductive Refusal where
  | ambiguous (word : String) (options : List String)
  | noValue (f : Flag)
  | extraValue (f : Flag) (value : String)
  | unknown (words : List String)
  deriving DecidableEq, Repr

/-- The wording of a refusal. -/
def Refusal.message : Refusal → String
  | .ambiguous word options =>
    "ambiguous option: " ++ word ++ " could match " ++ ", ".intercalate options
  | .noValue f => "argument " ++ f.shown ++ ": expected one argument"
  | .extraValue f value =>
    "argument " ++ f.shown ++ ": ignored explicit argument " ++ Text.quoted value
  | .unknown words => "unrecognized arguments: " ++ " ".intercalate words

/-- What an argument is taken for: a plain word, an option with the text that follows it in the same
argument, an option that is not known, or the mark after which all arguments are plain words. -/
inductive Word where
  | plain (s : String)
  | flag (f : Flag) (spelling : String) (attached : Option (List Char))
  | strange (s : String)
  | mark
  deriving DecidableEq, Repr, Inhabited

/-- The argument `s` before and after its first equals sign. -/
def cutValue (s : String) : String × Option (List Char) :=
  let cs := s.toList
  let name := cs.takeWhile (· != '=')
  match cs.dropWhile (· != '=') with
  | [] => (s, none)
  | _ :: value => (String.ofList name, some value)

/-- The options that `s`, a shortened or combined argument, can mean, with their spellings and what
follows them. -/
def candidates (s : String) : List (Flag × String × Option (List Char)) :=
  if "--".toList.isPrefixOf s.toList then
    let (name, value) := cutValue s
    (spellings.filter fun e => name.toList.isPrefixOf e.1.toList).map fun e => (e.2, e.1, value)
  else
    let short := String.ofList (s.toList.take 2)
    spellings.filterMap fun e =>
      if e.1 = short then some (e.2, e.1, some (s.toList.drop 2))
      else if s.toList.isPrefixOf e.1.toList then some (e.2, e.1, none)
      else none

/-- Whether `cs` are the digits of a number, or digits around a point. -/
def isNumeral (cs : List Char) : Bool :=
  let whole := cs.takeWhile Text.isDigit
  match cs.dropWhile Text.isDigit with
  | [] => !whole.isEmpty
  | '.' :: places => !places.isEmpty && places.all Text.isDigit
  | _ => false

/-- Whether `s` is a number below zero, which is a plain word.  A line may end behind it. -/
def isNegativeNumber (s : String) : Bool :=
  match s.toList with
  | '-' :: cs => isNumeral cs || (cs.getLast? == some '\n' && isNumeral cs.dropLast)
  | _ => false

/-- What the argument `s` is taken for. -/
def Word.ofString (s : String) : Except Refusal Word :=
  if s = "--" then .ok .mark
  else if !"-".toList.isPrefixOf s.toList then .ok (.plain s)
  else
    match spellings.lookup s with
    | some f => .ok (.flag f s none)
    | none =>
      if s = "-" then .ok (.plain s)
      else
        let (name, value) := cutValue s
        match spellings.lookup name, value with
        | some f, some v => .ok (.flag f name (some v))
        | _, _ =>
          match candidates s with
          | [(f, spelling, v)] => .ok (.flag f spelling v)
          | c :: d :: rest => .error (.ambiguous s ((c :: d :: rest).map (·.2.1)))
          | [] =>
            if isNegativeNumber s || s.toList.contains ' ' then .ok (.plain s)
            else .ok (.strange s)

/-- What the arguments are taken for. -/
def wordsOf : List String → Except Refusal (List Word)
  | [] => .ok []
  | s :: rest => do
    match ← Word.ofString s with
    | .mark => return .mark :: rest.map .plain
    | w => return w :: (← wordsOf rest)

/-- The arguments understood so far.  `extra` are those that nothing is known about. -/
structure Arguments where
  path : String := defaultPath
  once : Bool := false
  extra : List String := []
  deriving DecidableEq, Repr, Inhabited

/-- What is to be done instead of making backups. -/
inductive Asked where
  | help
  | version
  | refuse (r : Refusal)
  deriving DecidableEq, Repr

/-- The arguments `a` with an option without a value taken into account. -/
def Arguments.take (a : Arguments) : Flag → Except Asked Arguments
  | .help => .error .help
  | .version => .error .version
  | .once => .ok { a with once := true }
  | .config => .error (.refuse (.noValue .config))

/-- The options of one argument: those without a value, and then perhaps one that has its value in
the argument, or needs it from the next one. -/
structure Combined where
  before : List Flag := []
  value : Option (Flag × Option String) := none
  deriving DecidableEq, Repr, Inhabited

/-- The value `cs` that stands in the argument of its option.  Two dashes are dropped wherever a
value is read, so that such a value is empty. -/
def valueOf (cs : List Char) : String :=
  if cs = "--".toList then "" else String.ofList cs

/-- The options that stand in one argument, such as `-hc`.  Only options of one letter can be
combined. -/
def combine (f : Flag) (spelling : String) (cs : List Char) : Except Refusal Combined :=
  if f.hasValue then .ok { value := some (f, some (valueOf cs)) }
  else
    let refused : Except Refusal Combined := .error (.extraValue f (String.ofList cs))
    match cs with
    | [] => refused
    | c :: rest =>
      if "--".toList.isPrefixOf spelling.toList then refused
      else
        let next := String.ofList ['-', c]
        match spellings.lookup next, rest with
        | none, _ => refused
        | some g, [] =>
          .ok (if g.hasValue then { before := [f], value := some (g, none) }
            else { before := [f, g] })
        | some g, d :: more => do
          let e ← combine g next (d :: more)
          return { e with before := f :: e.before }
termination_by cs.length

/-- The options of an argument that begins with the option `f`, in this `spelling`. -/
def flagsOf (f : Flag) (spelling : String) : Option (List Char) → Except Refusal Combined
  | none => .ok (if f.hasValue then { value := some (f, none) } else { before := [f] })
  | some cs => combine f spelling cs

/-- The arguments `a` with the options `flags`, which have no value, taken into account one after
the other. -/
def Arguments.takeAll (a : Arguments) (flags : List Flag) : Except Asked Arguments :=
  flags.foldlM Arguments.take a

/-- The arguments `a` with one more, `s`, that nothing is known about. -/
def Arguments.leave (a : Arguments) (s : String) : Arguments := { a with extra := a.extra ++ [s] }

/-- The words read from first to last, with `a` read already. -/
def Arguments.read (a : Arguments) : List Word → Except Asked Arguments
  | [] => .ok a
  | .plain s :: rest => Arguments.read (a.leave s) rest
  | .strange s :: rest => Arguments.read (a.leave s) rest
  | .mark :: rest => Arguments.read (a.leave "--") rest
  | .flag f spelling attached :: rest =>
    match flagsOf f spelling attached with
    | .error r => .error (.refuse r)
    | .ok e =>
      match e.value, rest with
      | some (_, none), .plain s :: more => do
        let a ← a.takeAll e.before
        Arguments.read { a with path := s } more
      | some (g, none), _ => .error (.refuse (.noValue g))
      | some (_, some v), rest => do
        let a ← a.takeAll e.before
        Arguments.read { a with path := v } rest
      | none, rest => do
        let a ← a.takeAll e.before
        Arguments.read a rest

/-- The arguments `args` read from first to last; none may be left that nothing is known about. -/
def Arguments.parse (args : List String) : Except Asked Arguments := do
  let words ← (wordsOf args).mapError .refuse
  let a ← Arguments.read {} words
  if a.extra.isEmpty then return a else throw (.refuse (.unknown a.extra))

/-! ## Texts -/

/-- How the program is used, in short. -/
def usage : String :=
  "usage: " ++ program ++ " [-h] [-c CONFIG] [--once] [--version]\n"

/-- How the program is used. -/
def help : String :=
  usage ++ "\nBack up Redis dump files to S3 or GCS on a fixed schedule.\n\noptions:\n" ++
    "  -h, --help            show this help message and exit\n" ++
    "  -c CONFIG, --config CONFIG\n" ++
    "                        path to configuration file (default: " ++ defaultPath ++ ")\n" ++
    "  --once                run a single backup cycle and exit\n" ++
    "  --version             show program's version number and exit\n"

/-- What is said about arguments that are refused with `r`. -/
def Refusal.text (r : Refusal) : String :=
  usage ++ program ++ ": error: " ++ r.message ++ "\n"

end DumpKeeper.CommandLine
