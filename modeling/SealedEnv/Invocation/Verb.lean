import SealedEnv.Invocation.Word
import SealedEnv.Store.Path

/-!
Contract: reading the arguments of one verb.

Owns:
- `Grammar`, the flags, options and plain arguments of a verb;
- `Progress`, the state of a reader in which the values of the last argument may still be pending;
- the order in which faults of a command line are found.

Does not own: the verbs.
-/

namespace SealedEnv.Invocation

inductive Fault where
  | helpOnMissing
  | helpAsked
  | versionAsked
  | unknownArgument
  | invalidVerb
  | invalidValue
  | repeated
  | tooManyValues
  | missingArgument
  | notText
deriving DecidableEq, Repr

/-- The exit code of a fault.  Who asks for help or for the version gets it. -/
def Fault.exitCode : Fault → Nat
  | helpAsked | versionAsked => 0
  | _ => 2

inductive Plain where
  | none
  | one
  | many
  /-- All arguments from the first plain one on, whatever they look like. -/
  | rest
deriving DecidableEq

/-- The arguments that a verb takes.  Every verb has the flag for help besides. -/
structure Grammar where
  flags : List String
  /-- The options, each of which takes one path. -/
  options : List String
  plain : Plain
  /-- Whether there must be a plain argument. -/
  needsPlain : Bool

/-- Values that were given but not looked at yet. -/
inductive Pending where
  | option (name : String) (value : Option Bytes)
  | plain (values : List Bytes)
deriving DecidableEq

structure Progress where
  flags : List String
  options : List (String × Path)
  plain : List String
  pending : Option Pending
  /-- Whether the last word is an option that waits for its value. -/
  awaiting : Bool
  /-- Whether every further argument is plain. -/
  trailing : Bool

/-- The state before the first argument. -/
def Progress.start : Progress := ⟨[], [], [], none, false, false⟩

namespace Progress

/-- Takes an option's value, which must be there, be the first one and not be empty. -/
def takeOption (progress : Progress) (name : String) : Option Bytes → Except Fault Progress
  | none => .error .invalidValue
  | some value =>
    if progress.options.any fun option => option.1 = name then .error .repeated
    else if value.isEmpty then .error .invalidValue
    else .ok { progress with options := progress.options ++ [(name, value)] }

def takePlain (progress : Progress) (values : List Bytes) : Except Fault Progress :=
  match values.mapM Utf8.decode? with
  | none => .error .notText
  | some texts => .ok { progress with plain := progress.plain ++ texts }

/-- Looks at the pending values. -/
def settle (progress : Progress) : Except Fault Progress :=
  let rest := { progress with pending := none, awaiting := false }
  match progress.pending with
  | none => .ok rest
  | some (.option name value) => rest.takeOption name value
  | some (.plain values) => rest.takePlain values

def plainCount (progress : Progress) : Nat :=
  progress.plain.length +
    match progress.pending with
    | some (.plain values) => values.length
    | _ => 0

def readFlag (progress : Progress) (name : String) : Except Fault Progress := do
  let settled ← progress.settle
  if settled.flags.contains name then throw .repeated
  return { settled with flags := name :: settled.flags }

def readPlain (grammar : Grammar) (progress : Progress) (argument : Bytes) :
    Except Fault Progress :=
  let trailing := progress.trailing || grammar.plain = .rest
  match grammar.plain with
  | .none => .error .unknownArgument
  | .one =>
    if progress.plainCount = 0 then do
      let settled ← progress.settle
      return { settled with pending := some (.plain [argument]) }
    else .error .unknownArgument
  | .many | .rest =>
    match progress.pending with
    | some (.plain values) =>
      .ok { progress with pending := some (.plain (values ++ [argument])), trailing }
    | _ => do
      let settled ← progress.settle
      return { settled with pending := some (.plain [argument]), trailing }

/-- Reads an argument that is no flag and no option: the value that an option waits for, or a plain
one. -/
def readValue (grammar : Grammar) (progress : Progress) (argument : Bytes) :
    Except Fault Progress :=
  match progress.awaiting, progress.pending with
  | true, some (.option name _) =>
    .ok { progress with pending := some (.option name (some argument)), awaiting := false }
  | _, _ => readPlain grammar progress argument

/-- Reads an argument that looks like a flag or an option but is none.  Only a verb that takes all
further arguments has a use for it. -/
def readUnknown (grammar : Grammar) (progress : Progress) (argument : Bytes) :
    Except Fault Progress :=
  if grammar.plain = .rest then readValue grammar progress argument
  else .error .unknownArgument

def readLong
    (grammar : Grammar)
    (progress : Progress)
    (argument : Bytes)
    (name : Option String)
    (value : Option Bytes) :
    Except Fault Progress :=
  match name with
  | none => .error .unknownArgument
  | some name =>
    if name = "help" then
      if value.isSome then .error .tooManyValues
      else do
        let _ ← progress.settle
        throw .helpAsked
    else if grammar.flags.contains name then
      if value.isSome then .error .tooManyValues else progress.readFlag name
    else if grammar.options.contains name then do
      let settled ← progress.settle
      match value with
      | some _ => settled.takeOption name value
      | none => return { settled with pending := some (.option name none), awaiting := true }
    else readUnknown grammar progress argument

/-- Reads an argument with one dash and letters.  The only letter that is known asks for help. -/
def readShort
    (grammar : Grammar)
    (progress : Progress)
    (argument : Bytes)
    (letters : List Char) :
    Except Fault Progress :=
  if grammar.plain = .rest && (letters.any (· ≠ 'h') || letters.length + 1 ≠ argument.length) then
    readValue grammar progress argument
  else if letters.head? = some 'h' then do
    let _ ← progress.settle
    throw .helpAsked
  else .error .unknownArgument

def read (grammar : Grammar) (progress : Progress) (argument : Bytes) : Except Fault Progress :=
  if progress.trailing then readPlain grammar progress argument
  else match Word.ofBytes argument with
    | .escape => .ok { progress with trailing := true }
    | .long name value => readLong grammar progress argument name value
    | .short letters => readShort grammar progress argument letters
    | .plain => readValue grammar progress argument

def readAll (grammar : Grammar) (arguments : List Bytes) : Except Fault Progress := do
  let last ← arguments.foldlM (read grammar) start
  let settled ← last.settle
  if grammar.needsPlain && settled.plain.isEmpty then throw .missingArgument
  return settled

/-- The value of an option, or its default. -/
def path (progress : Progress) (name : String) (default : Path) : Path :=
  (progress.options.lookup name).getD default

end Progress

end SealedEnv.Invocation
