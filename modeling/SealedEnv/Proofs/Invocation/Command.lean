import SealedEnv.Invocation.Basic

/-!
Contract: a command line that hands a command on, word by word.

Owns:
- `holding`, the state of a reader after two dashes, from the arguments after them alone;
- the law that a verb which takes all arguments takes those after two dashes as they are;
- the program under its other name, which hands on all its arguments.

Does not own: arguments before two dashes, where flags and options are looked for.
-/

namespace SealedEnv.Invocation

/-! ## Arguments after two dashes -/

namespace Progress

/-- The state after two dashes and some arguments, none of which was looked at. -/
def holding (arguments : List Bytes) : Progress :=
  { start with
    pending := if arguments = [] then none else some (.plain arguments)
    trailing := true }

/-- The state in which the arguments after two dashes turned out to be texts. -/
def taken (texts : List String) : Progress := { start with plain := texts, trailing := true }

theorem read_escape (grammar : Grammar) :
    read grammar start (Utf8.encode "--") = .ok (holding []) := by
  have escape : Word.ofBytes (Utf8.encode "--") = .escape := by decide
  unfold read
  rw [escape]
  rfl

theorem settle_holding (texts : List String) :
    (holding (texts.map Utf8.encode)).settle = .ok (taken texts) := by
  have decoded : (texts.map Utf8.encode).mapM Utf8.decode? = some texts := by
    rw [List.mapM_map]
    induction texts with
    | nil => rfl
    | cons text texts inductionHypothesis =>
        simp [List.mapM_cons, inductionHypothesis]
  cases texts with
  | nil => rfl
  | cons text texts =>
      show takePlain (taken []) ((text :: texts).map Utf8.encode) = _
      unfold takePlain
      rw [decoded]
      rfl

section Rest

variable {grammar : Grammar} (takesRest : grammar.plain = .rest)

include takesRest

/-- One argument more is held, whatever it looks like. -/
theorem read_holding (arguments : List Bytes) (argument : Bytes) :
    read grammar (holding arguments) argument = .ok (holding (arguments ++ [argument])) := by
  have isTrailing : (holding arguments).trailing = true := rfl
  unfold read readPlain
  rw [if_pos isTrailing, takesRest]
  cases arguments with
  | nil => rfl
  | cons first more => rfl

theorem foldlM_read_holding (before arguments : List Bytes) :
    arguments.foldlM (read grammar) (holding before) = .ok (holding (before ++ arguments)) := by
  induction arguments generalizing before with
  | nil =>
      rw [List.append_nil]
      rfl
  | cons argument arguments inductionHypothesis =>
      rw [List.foldlM_cons, read_holding takesRest]
      show arguments.foldlM (read grammar) (holding (before ++ [argument])) = _
      rw [inductionHypothesis, List.append_assoc, List.singleton_append]

/-- A verb that takes all arguments takes those after two dashes as they are, in their order. -/
theorem readAll_escaped (texts : List String) :
    readAll grammar (Utf8.encode "--" :: texts.map Utf8.encode) =
      if grammar.needsPlain && texts.isEmpty then .error .missingArgument
      else .ok (taken texts) := by
  have held : (Utf8.encode "--" :: texts.map Utf8.encode).foldlM (read grammar) start =
      .ok (holding (texts.map Utf8.encode)) := by
    rw [List.foldlM_cons, read_escape]
    exact foldlM_read_holding takesRest [] (texts.map Utf8.encode)
  have settled : (holding (texts.map Utf8.encode)).settle = .ok (taken texts) :=
    settle_holding texts
  unfold readAll
  simp only [bind, Except.bind, held, settled]
  show (if grammar.needsPlain && texts.isEmpty then _ else _) = _
  split
  · rfl
  · rfl

end Rest

end Progress

/-! ## Commands -/

/-- The verb that runs a command gets the words after two dashes, and must get one. -/
theorem parseArguments_run_escaped (command : List String) :
    parseArguments (Utf8.encode "run" :: Utf8.encode "--" :: command.map Utf8.encode) =
      if command = [] then .error .missingArgument else .ok (.run command) := by
  have isVerb : verb? (Utf8.encode "run") =
      some ⟨"run", ⟨[], [], .rest, true⟩, fun given => .run given.plain⟩ := rfl
  unfold parseArguments
  simp only [isVerb]
  rw [Progress.readAll_escaped rfl]
  cases command with
  | nil => rfl
  | cons word words => rfl

/-- Two dashes in front are there in the end, and there once. -/
theorem aliasArguments_eq (arguments : List String) :
    aliasArguments (arguments.map Utf8.encode) =
      Utf8.encode "run" :: Utf8.encode "--" ::
        (if arguments.head? = some "--" then arguments.tail else arguments).map Utf8.encode := by
  have sameHead : (arguments.map Utf8.encode).head? = some (Utf8.encode "--") ↔
      arguments.head? = some "--" := by
    rw [List.head?_map, Option.map_eq_some_iff]
    constructor
    · intro ⟨first, isFirst, same⟩
      rw [isFirst, Utf8.encode_injective same]
    · intro isFirst
      exact ⟨"--", isFirst, rfl⟩
  unfold aliasArguments
  dsimp only
  by_cases escaped : arguments.head? = some "--"
  · obtain ⟨rest, rfl⟩ := List.head?_eq_some_iff.mp escaped
    rw [if_pos (sameHead.mpr escaped), if_pos escaped]
    rfl
  · rw [if_neg (mt sameHead.mp escaped), if_neg escaped]

/-- Under its other name the program is asked to run all its arguments, but for two dashes in front
of them: none is dropped, moved or looked at, not even a flag, the name of a verb or two dashes
further on.  Without a command it is misused, which is the exit code 2. -/
theorem parse_alias_verbatim
    {program : Path}
    (isAlias : program.components.getLast? = some (.name (Path.ofText "docker-init")))
    (arguments : List String) :
    let command := if arguments.head? = some "--" then arguments.tail else arguments
    parse (program :: arguments.map Utf8.encode) =
      (if command = [] then .error .missingArgument else .ok (.run command)) ∧
    Fault.missingArgument.exitCode = 2 := by
  intro command
  have named : Path.fileName? program = some (Path.ofText aliasName) := by
    unfold Path.fileName?
    rw [isAlias]
    rfl
  refine ⟨?_, rfl⟩
  calc parse (program :: arguments.map Utf8.encode)
      = parseArguments (aliasArguments (arguments.map Utf8.encode)) := if_pos named
    _ = parseArguments (Utf8.encode "run" :: Utf8.encode "--" :: command.map Utf8.encode) := by
        rw [aliasArguments_eq]
    _ = if command = [] then .error .missingArgument else .ok (.run command) :=
        parseArguments_run_escaped command

/-- Of two dashes twice the first are dropped, and what looks like flags and verbs is handed on. -/
theorem parse_alias_verbatim_flags :
    parse (["/sbin/docker-init", "--", "--", "--help", "-V", "seal", "", "--json=x"].map
      Utf8.encode) = .ok (.run ["--", "--help", "-V", "seal", "", "--json=x"]) ∧
    parse (["docker-init/.", "--"].map Utf8.encode) = .error .missingArgument := by
  have byPath : (Path.ofText "/sbin/docker-init").components.getLast? =
      some (.name (Path.ofText "docker-init")) := by decide
  have byFolder : (Path.ofText "docker-init/.").components.getLast? =
      some (.name (Path.ofText "docker-init")) := by decide
  constructor
  · exact (parse_alias_verbatim byPath
      ["--", "--", "--help", "-V", "seal", "", "--json=x"]).1
  · exact (parse_alias_verbatim byFolder ["--"]).1

end SealedEnv.Invocation
