import ShardCheck.Error
import ShardCheck.Text.Basic

/-!
# Log events

An event has a level, a message and fields. It is written on one line, unless its texts hold line
breaks, and only if its level is not finer than the one asked for.
-/

namespace ShardCheck

/-! ### Levels -/

/-- The levels from the coarsest to the finest. -/
inductive LogLevel where
  | error
  | warn
  | info
  | debug
  | trace
  deriving Repr, DecidableEq

namespace LogLevel

def rank : LogLevel → Nat
  | .error => 0
  | .warn => 1
  | .info => 2
  | .debug => 3
  | .trace => 4

/-- Events of level `l` are written when level `limit` is asked for. -/
def isEnabled (limit l : LogLevel) : Bool := l.rank ≤ limit.rank

def text : LogLevel → String
  | .error => "error"
  | .warn => "warn"
  | .info => "info"
  | .debug => "debug"
  | .trace => "trace"

/-- The head of a line, five characters wide. -/
def label : LogLevel → String
  | .error => "ERROR"
  | .warn => " WARN"
  | .info => " INFO"
  | .debug => "DEBUG"
  | .trace => "TRACE"

/-- The spellings of the levels in small letters. -/
def spellings : List (String × LogLevel) :=
  [("panic", .error), ("fatal", .error), ("error", .error), ("warn", .warn), ("warning", .warn),
    ("info", .info), ("debug", .debug), ("trace", .trace)]

/-- Capital letters A to Z as small ones. -/
def lowerCase (s : String) : String := String.ofList (s.toList.map Char.toLower)

/-- Reads a level, in letters of either case. -/
def parse (s : String) : Except RunError LogLevel :=
  match spellings.lookup (lowerCase s) with
  | some l => .ok l
  | none => .error (.invalidLogLevel ("not a valid log level: \"" ++ s ++ "\""))

end LogLevel

/-! ### Events -/

/-- The value of a field: a text as it is, a text between quotes, or a number. -/
inductive FieldValue where
  | shown (text : String)
  | quoted (text : String)
  | number (value : Nat)
  deriving Repr, DecidableEq

def FieldValue.text : FieldValue → String
  | .shown s => s
  | .quoted s => Text.quoted s
  | .number n => toString n

/-- An event with its fields in order. -/
structure LogEvent where
  level : LogLevel
  message : String
  fields : List (String × FieldValue)
  deriving Repr, DecidableEq

namespace LogEvent

/-- A character of a message. Characters that control a terminal give their code points. -/
def escapeChar (c : Char) : List Char :=
  if c == '\x1b' || c == '\x07' || c == '\x08' || c == '\x0c' || c == '\x7f' then
    ['\\', 'x', Nat.digitChar (c.toNat / 16), Nat.digitChar (c.toNat % 16)]
  else if 0x80 ≤ c.toNat && c.toNat ≤ 0x9f then
    ['\\', 'u', '\x7b'] ++ Text.hexDigits c.toNat ++ ['\x7d']
  else [c]

def escape (s : String) : String := String.ofList (s.toList.flatMap escapeChar)

def line (e : LogEvent) : String :=
  e.fields.foldl (fun s f => s ++ " " ++ f.1 ++ "=" ++ f.2.text)
    (e.level.label ++ " " ++ escape e.message)

end LogEvent

def writtenLog (limit : LogLevel) (events : List LogEvent) : List String :=
  (events.filter (limit.isEnabled ·.level)).map LogEvent.line

/-! ### Logging runs -/

/-- What ends a run early: an error, or a crash of the program. -/
inductive Halt where
  | error (e : RunError)
  | crash (reason : String)
  deriving Repr, DecidableEq

/-- A computation that logs events and may fail. What was logged before a failure stays. -/
abbrev Run := ExceptT Halt (StateM (List LogEvent))

instance : MonadLift (Except RunError) Run := ⟨fun x => ExceptT.mk (pure (x.mapError .error))⟩

namespace Run

def log (level : LogLevel) (message : String) (fields : List (String × FieldValue)) : Run Unit :=
  modify (· ++ [⟨level, message, fields⟩])

def result {α : Type} (r : Run α) : Except Halt α × List LogEvent :=
  ExceptT.run r []

end Run

end ShardCheck
