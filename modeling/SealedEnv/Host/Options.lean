import SealedEnv.Host.Task

/-!
Contract: the options of the machine's programs.

Owns:
- `Options.read`, which takes apart words with a dash, letters that are followed by a value, and
  the other words.

Does not own: what an option means.
-/

namespace SealedEnv.Host

/-- The arguments of a program. -/
structure Options where
  letters : List Char
  values : List (Char × String)
  /-- The names of long options. -/
  long : Words
  operands : Words

namespace Options

def none : Options := ⟨[], [], [], []⟩

/-- Reads the letters of one word: the letters before one that takes a value, and that one with the
rest of the word. -/
def readLetters (valued : List Char) : List Char → List Char × Option (Char × String)
  | [] => ([], .none)
  | letter :: rest =>
    if valued.contains letter then ([], some (letter, String.ofList rest))
    else (letter :: (readLetters valued rest).1, (readLetters valued rest).2)

def prepend (found : List Char × Option (Char × String)) (options : Options) : Options :=
  { options with
    letters := found.1 ++ options.letters, values := found.2.toList ++ options.values }

/-- Reads arguments.  The letters in `valued` take a value, from the same word or the next one. -/
def read (valued : List Char) : Words → Options
  | [] => none
  | "--" :: rest => { none with operands := rest }
  | word :: rest =>
    match word.toList with
    | '-' :: '-' :: name =>
      let more := read valued rest
      { more with long := String.ofList name :: more.long }
    | '-' :: letter :: letters =>
      let found := readLetters valued (letter :: letters)
      match rest with
      | [] => none.prepend found
      | next :: after =>
        match found.2 with
        | some (last, "") => (read valued after).prepend (found.1, some (last, next))
        | _ => (read valued (next :: after)).prepend found
    | _ =>
      let more := read valued rest
      { more with operands := word :: more.operands }

def has (options : Options) (letter : Char) : Bool := options.letters.contains letter

def value? (options : Options) (letter : Char) : Option String :=
  options.values.reverse.lookup letter

end Options

end SealedEnv.Host
