/-!
Contract: the two grammars of key names.

Owns:
- `isStoredKey`, for names that sealing writes into an env file;
- `isRequestKey`, the wider grammar of names in requests and in env files that are read.

Does not own: what is done with a refused name.
-/

namespace SealedEnv

namespace KeyName

/-- Holds of the characters a stored name may start with: `A` to `Z`. -/
def startsStored (c : Char) : Bool := c.isUpper

/-- Holds of the characters that may follow in a stored name. -/
def continuesStored (c : Char) : Bool := c.isUpper || c.isDigit || c == '_'

/-- Holds of the characters a requested name may start with: ASCII letters and the underscore. -/
def startsRequest (c : Char) : Bool := c.isAlpha || c == '_'

/-- Holds of the characters that may follow in a requested name. -/
def continuesRequest (c : Char) : Bool := c.isAlphanum || c == '_'

/-- A name is one character of `start` and any number of `continue`. -/
def fits (starts continues : Char → Bool) : List Char → Bool
  | [] => false
  | first :: rest => starts first && rest.all continues

end KeyName

/-- Names under which a sealed value may be stored: capitals, digits and underscores, a capital
first. -/
def isStoredKey (name : String) : Bool :=
  KeyName.fits KeyName.startsStored KeyName.continuesStored name.toList

/-- Names that a request may ask for: ASCII letters, digits and underscores, no digit first. -/
def isRequestKey (name : String) : Bool :=
  KeyName.fits KeyName.startsRequest KeyName.continuesRequest name.toList

end SealedEnv
