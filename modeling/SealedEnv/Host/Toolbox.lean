import SealedEnv.Host.Tool.Condition
import SealedEnv.Host.Tool.Plain

/-!
Contract: the programs that come with a machine.

Owns:
- the table from titles to tools;
- `installed`, a store that holds them where programs are looked for.

Does not own: the programs that start others.
-/

namespace SealedEnv.Host

/-- The tools and their titles. -/
def toolbox : List (String × Tool) := [
  ("[", Tool.bracket), ("base64", Tool.base64), ("basename", Tool.basename), ("cat", Tool.cat),
  ("chmod", Tool.chmod), ("cp", Tool.cp), ("cut", Tool.cut), ("dirname", Tool.dirname),
  ("echo", Tool.echo), ("false", fun _ => return 1), ("head", Tool.head), ("ln", Tool.ln),
  ("ls", Tool.ls), ("mkdir", Tool.mkdir), ("mv", Tool.mv), ("od", Tool.od),
  ("printenv", Tool.printenv), ("printf", Tool.printf), ("pwd", Tool.pwd),
  ("readlink", Tool.readlink), ("rm", Tool.rm), ("rmdir", Tool.rmdir), ("seq", Tool.seq),
  ("sleep", Tool.sleep), ("sort", Tool.sort), ("stat", Tool.stat), ("tail", Tool.tail),
  ("tee", Tool.tee), ("test", Tool.test), ("touch", Tool.touch), ("tr", Tool.tr),
  ("true", fun _ => return 0), ("uniq", Tool.uniq), ("wc", Tool.wc)]

def shellTitle : String := "sh"

/-- The title of the program that runs another one in a changed environment. -/
def envTitle : String := "env"

def placeOf (names : List String) : Place := (names.map Path.ofText).reverse

/-- A store with the machine's programs, a directory for passing files and an empty device. -/
def installed : Store :=
  let folders := ["usr", "dev", "tmp"].map fun name => (placeOf [name], Node.directory)
  let programs := (shellTitle :: envTitle :: toolbox.map Prod.fst).map fun title =>
    (placeOf ["usr", "bin", title], Node.program title)
  ⟨folders ++ [(placeOf ["usr", "bin"], .directory), (placeOf ["dev", "null"], .void),
    (placeOf ["bin"], .link (Path.ofText "usr/bin"))] ++ programs⟩

end SealedEnv.Host
