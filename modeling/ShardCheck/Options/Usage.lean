import ShardCheck.Options.Similarity

/-!
# The command line

The program takes two options with values and two flags that ask for information. An option may be
given once, with its value behind an equals sign or as the next argument. There are no other
arguments.
-/

namespace ShardCheck

/-! ### Options and flags -/

/-- What may be given on the command line. -/
inductive Flag where
  | releaseRepoDir
  | logLevel
  | help
  | version
  deriving Repr, DecidableEq

namespace Flag

/-- All of them, in the order of the help text. -/
def all : List Flag := [.releaseRepoDir, .logLevel, .help, .version]

def name : Flag → String
  | .releaseRepoDir => "release-repo-dir"
  | .logLevel => "log-level"
  | .help => "help"
  | .version => "version"

def valueName? : Flag → Option String
  | .releaseRepoDir => some "DIR"
  | .logLevel => some "LEVEL"
  | .help | .version => none

/-- The form in which messages show an option. -/
def shown (f : Flag) : String :=
  "--" ++ f.name ++ f.valueName?.elim "" fun v => " <" ++ v ++ ">"

def ofName? (name : String) : Option Flag := all.find? (·.name == name)

def resembling? (name : String) : Option Flag :=
  (Similarity.closest? name.toList (all.map (·.name.toList))).bind fun n =>
    ofName? (String.ofList n)

end Flag

/-! ### Help -/

def programName : String := "config-shard-validator"

def versionText : String := programName ++ " 0.1.0\n"

/-- The line that shows how to call the program. Without options in particular it shows that there
are some. -/
def usageLine (shown : List String) : String :=
  "Usage: " ++ programName ++
    (if shown.isEmpty then " [OPTIONS]" else String.join (shown.map (" " ++ ·))) ++ "\n"

def examplesText : String :=
  "Examples:\n" ++
  "    config-shard-validator --release-repo-dir ../release\n" ++
  "    config-shard-validator --release-repo-dir ../release --log-level debug\n"

def shortHelp : String :=
  "Validate config-updater sharding of CI configuration\n\n" ++ usageLine [] ++ "\nOptions:\n" ++
  "      --release-repo-dir <DIR>  Path to the release repository checkout\n" ++
  "      --log-level <LEVEL>       Level at which to log output [default: info]\n" ++
  "  -h, --help                    Print help (see more with '--help')\n" ++
  "  -V, --version                 Print version\n\n" ++ examplesText

def longHelp : String :=
  "Config shard validator\n\n" ++
  "Checks that every CI operator and job configuration belongs to exactly one auto-updating " ++
  "config map, and that injected configs name the right one.\n\n" ++ usageLine [] ++
  "\nOptions:\n" ++
  "      --release-repo-dir <DIR>\n" ++
  "          Path to the release repository checkout\n\n" ++
  "      --log-level <LEVEL>\n" ++
  "          Level at which to log output\n" ++
  "          \n" ++
  "          [default: info]\n\n" ++
  "  -h, --help\n" ++
  "          Print help (see a summary with '-h')\n\n" ++
  "  -V, --version\n" ++
  "          Print version\n\n" ++ examplesText

/-! ### What can be wrong -/

/-- Why a command line gives no options: information was asked for, or it is wrong. -/
inductive UsageStop where
  | help (long : Bool)
  | version
  | missingValue (flag : Flag)
  | repeated (flag : Flag)
  | unexpectedValue (flag : Flag) (value : String) (given : List Flag)
  | unknownOption (name : String) (resembling : Option Flag) (given : List Flag)
  | unexpectedArgument (text : String)
  deriving Repr, DecidableEq

namespace UsageStop

/-- The stop answers a question and is no error. -/
def isAnswer : UsageStop → Bool
  | .help _ | .version => true
  | _ => false

/-- The end of every error message. -/
def moreText : String := "\nFor more information, try '--help'.\n"

def choiceText : String :=
  "<" ++ Flag.releaseRepoDir.shown ++ "|" ++ Flag.logLevel.shown ++ ">"

def text : UsageStop → String
  | .help true => longHelp
  | .help false => shortHelp
  | .version => versionText
  | .missingValue flag =>
    "error: a value is required for '" ++ flag.shown ++ "' but none was supplied\n" ++ moreText
  | .repeated flag =>
    "error: the argument '" ++ flag.shown ++ "' cannot be used multiple times\n\n" ++
      usageLine [] ++ moreText
  | .unexpectedValue flag value given =>
    "error: unexpected value '" ++ value ++ "' for '" ++ flag.shown ++
      "' found; no more were expected\n\n" ++
      usageLine (flag.shown :: if given.isEmpty then [] else [choiceText]) ++ moreText
  | .unknownOption name resembling given =>
    "error: unexpected argument '--" ++ name ++ "' found\n\n" ++
      (resembling.elim "" fun f =>
        "  tip: a similar argument exists: '--" ++ f.name ++ "'\n\n") ++
      usageLine ((given ++ resembling.toList.filter (!given.contains ·)).map Flag.shown) ++ moreText
  | .unexpectedArgument text =>
    "error: unexpected argument '" ++ text ++ "' found\n\n" ++ usageLine [] ++ moreText

end UsageStop

/-! ### Reading the arguments -/

/-- The arguments read so far: the options that were given, in order, their values, and the option
that is not settled yet, with its value if that was given. -/
structure ArgumentState where
  given : List Flag
  releaseRepoDir : Option String
  logLevel : Option String
  pending : Option (Flag × Option String)

namespace ArgumentState

def start : ArgumentState := ⟨[], none, none, none⟩

/-- Takes a value of an option. A directory must have a name. -/
def assign (s : ArgumentState) (f : Flag) (value : String) : ArgumentState × Option UsageStop :=
  if s.given.contains f then ({ s with given := s.given.erase f }, some (.repeated f))
  else
    let s := { s with given := s.given ++ [f] }
    match f with
    | .releaseRepoDir =>
      if value == "" then (s, some (.missingValue f))
      else ({ s with releaseRepoDir := some value }, none)
    | _ => ({ s with logLevel := some value }, none)

def settle (s : ArgumentState) : ArgumentState × Option UsageStop :=
  match s.pending with
  | none => (s, none)
  | some (f, none) => ({ s with pending := none }, some (.missingValue f))
  | some (f, some value) => { s with pending := none }.assign f value

/-- Settles the pending option and goes on, or ends with what is wrong about it. -/
def settled (s : ArgumentState) : Except UsageStop ArgumentState :=
  match s.settle with
  | (s, none) => .ok s
  | (_, some stop) => .error stop

/-- Ends with a question answered, once the pending option is settled. -/
def answer (s : ArgumentState) (stop : UsageStop) : Except UsageStop ArgumentState := do
  let _ ← s.settled
  .error stop

/-- Takes an option by name, with the value behind its equals sign, if there is one. -/
def takeLong (s : ArgumentState) (name : String) (value : Option String) :
    Except UsageStop ArgumentState :=
  match Flag.ofName? name, value with
  | none, _ => .error (.unknownOption name (Flag.resembling? name) s.settle.1.given)
  | some .help, none => s.answer (.help true)
  | some .version, none => s.answer .version
  | some .help, some v => .error (.unexpectedValue .help v s.given)
  | some .version, some v => .error (.unexpectedValue .version v s.given)
  | some f, none => do return { ← s.settled with pending := some (f, none) }
  | some f, some v => do
    match (← s.settled).assign f v with
    | (s, none) => return s
    | (_, some stop) => .error stop

def takeShort (s : ArgumentState) (letter : Char) : Except UsageStop ArgumentState :=
  if letter == 'h' then s.answer (.help false)
  else if letter == 'V' then s.answer .version
  else .error (.unexpectedArgument (String.ofList ['-', letter]))

/-- Takes an argument that is no option: the value of the pending one. -/
def takeValue (s : ArgumentState) (a : String) : Except UsageStop ArgumentState :=
  match s.pending with
  | some (f, none) => .ok { s with pending := some (f, some a) }
  | _ => .error (.unexpectedArgument a)

def splitValue (s : List Char) : String × Option String :=
  match s.dropWhile (· != '=') with
  | [] => (String.ofList s, none)
  | _ :: value => (String.ofList (s.takeWhile (· != '=')), some (String.ofList value))

def take (s : ArgumentState) (a : String) : Except UsageStop ArgumentState :=
  match a.toList with
  | '-' :: '-' :: r =>
    let (name, value) := splitValue r
    s.takeLong name value
  | '-' :: c :: _ => s.takeShort c
  | _ => s.takeValue a

/-- Takes arguments up to the end. Behind two dashes nothing may follow. -/
def takeAll : List String → ArgumentState → Except UsageStop ArgumentState
  | [], s => s.settled
  | a :: rest, s =>
    if a == "--" then
      match rest with
      | [] => s.settled
      | b :: _ => .error (.unexpectedArgument b)
    else do takeAll rest (← s.take a)

end ArgumentState

end ShardCheck
