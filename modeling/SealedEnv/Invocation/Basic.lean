import SealedEnv.Invocation.Verb

/-!
Contract: what a command line asks for.

Owns:
- `Invocation`, the verbs with their arguments and the defaults of these;
- `parse`, with the name under which the program runs commands without being told to.

Does not own: carrying out a verb.
-/

namespace SealedEnv

inductive Invocation where
  | version
  | makeKeyPair (privateFile publicFile : Path)
  | sealInput (publicFile out : Path) (key : String)
  | unsealFile (input privateFile : Path) (json : Bool) (keys : List String)
  | serve (delegated : Bool) (command : List String)
  | run (command : List String)
deriving DecidableEq

namespace Invocation

def defaultPrivateFile : String := "ojster_priv.key"

def defaultPublicFile : String := "ojster_pub.key"

def defaultEnvFile : String := ".env"

/-- The name under which the program takes all its arguments for a command to run. -/
def aliasName : String := "docker-init"

structure Verb where
  name : String
  grammar : Grammar
  meaning : Progress → Invocation

def verbs : List Verb := [
  ⟨"keypair", ⟨[], ["priv-file", "pub-file"], .none, false⟩, fun given =>
    .makeKeyPair (given.path "priv-file" (Path.ofText defaultPrivateFile))
      (given.path "pub-file" (Path.ofText defaultPublicFile))⟩,
  ⟨"seal", ⟨[], ["pub-file", "out"], .one, true⟩, fun given =>
    .sealInput (given.path "pub-file" (Path.ofText defaultPublicFile))
      (given.path "out" (Path.ofText defaultEnvFile)) (given.plain.headD "")⟩,
  ⟨"unseal", ⟨["json"], ["in", "priv-file"], .many, false⟩, fun given =>
    .unsealFile (given.path "in" (Path.ofText defaultEnvFile))
      (given.path "priv-file" (Path.ofText defaultPrivateFile)) (given.flags.contains "json")
      given.plain⟩,
  ⟨"serve", ⟨["delegated"], [], .rest, false⟩, fun given =>
    .serve (given.flags.contains "delegated") given.plain⟩,
  ⟨"run", ⟨[], [], .rest, true⟩, fun given => .run given.plain⟩,
  ⟨"version", ⟨[], [], .none, false⟩, fun _ => .version⟩]

def helpName : String := "help"

def verb? (name : Bytes) : Option Verb :=
  verbs.find? fun verb => Utf8.encode verb.name = name

/-- Reads the arguments after the verb that explains the others. -/
def explain : List Bytes → Fault
  | [] => .helpAsked
  | name :: rest =>
    if rest.isEmpty && ((verb? name).isSome || name = Utf8.encode helpName) then .helpAsked
    else .invalidVerb

/-- The fault of an argument before the verb with one dash and letters. -/
def shortFault : List Char → Fault
  | 'h' :: _ => .helpAsked
  | 'V' :: _ => .versionAsked
  | _ => .unknownArgument

/-- The fault of an argument before the verb with two dashes and a name. -/
def longFault (name : Option String) (value : Option Bytes) : Fault :=
  let known := name = some "help" || name = some "version"
  if !known then .unknownArgument
  else if value.isSome then .tooManyValues
  else if name = some "help" then .helpAsked
  else .versionAsked

/-- The fault of an argument that follows two dashes in place of a verb. -/
def escapedFault : List Bytes → Fault
  | [] => .helpOnMissing
  | argument :: _ =>
    if (verb? argument).isSome || argument = Utf8.encode helpName then .unknownArgument
    else .invalidVerb

def parseArguments : List Bytes → Except Fault Invocation
  | [] => .error .helpOnMissing
  | argument :: rest =>
    match verb? argument with
    | some verb => (Progress.readAll verb.grammar rest).map verb.meaning
    | none =>
      if argument = Utf8.encode helpName then .error (explain rest)
      else match Word.ofBytes argument with
        | .escape => .error (escapedFault rest)
        | .long name value => .error (longFault name value)
        | .short letters => .error (shortFault letters)
        | .plain => .error .invalidVerb

/-- The arguments of the verb that runs a command, with two dashes before the command. -/
def aliasArguments (arguments : List Bytes) : List Bytes :=
  let escape := Utf8.encode "--"
  Utf8.encode "run" :: if arguments.head? = some escape then arguments else escape :: arguments

/-- Reads a command line, the program's name included. -/
def parse : List Bytes → Except Fault Invocation
  | [] => .error .helpOnMissing
  | program :: arguments =>
    if Path.fileName? program = some (Path.ofText aliasName) then
      parseArguments (aliasArguments arguments)
    else parseArguments arguments

end Invocation

end SealedEnv
