import SealedEnv.Program.Running
import SealedEnv.Proofs.Exchange.WorkFolder
import SealedEnv.Proofs.FlatJson.RoundTrip
import SealedEnv.Proofs.Store.Folder
import SealedEnv.Proofs.Variables
import SealedEnv.Proofs.Vault.Unseal

/-!
Contract: the program, run as a command that unseals an env file with a key file beside it.

Owns:
- what keeps words and variables from being handed on;
- `IsOwnProgram`, a path at which the program is found from anywhere;
- the report of the command, which is that of unsealing the file.

Does not own: who runs the command.
-/

namespace SealedEnv

/-! ## Handing on -/

namespace Host

theorem handingFault?_eq_none_iff
    {words : List Bytes}
    {environment : List Variable} :
    handingFault? words environment = none ↔
      ∀ text ∈ handedStrings words environment, (0 : UInt8) ∉ text ∧ text.length < stringBound := by
  unfold handingFault?
  dsimp only
  constructor
  · intro noFault text member
    split_ifs at noFault with zero long
    simp only [List.any_eq_true, not_exists, not_and, decide_eq_true_eq, Nat.not_le,
      List.contains_iff_mem] at zero long
    exact ⟨zero text member, long text member⟩
  · intro proper
    rw [if_neg, if_neg]
    · simp only [List.any_eq_true, not_exists, not_and, decide_eq_true_eq, Nat.not_le]
      intro text member
      exact (proper text member).2
    · simp only [List.any_eq_true, not_exists, not_and, List.contains_iff_mem]
      intro text member
      exact (proper text member).1

/-- What can be handed on to nobody with no words can be handed on with proper words, and without
the reserved variables. -/
theorem handingFault?_handedOn
    {words : List Bytes}
    {environment : List Variable}
    (proper : ∀ word ∈ words, (0 : UInt8) ∉ word ∧ word.length < stringBound)
    (handable : handingFault? [] environment = none) :
    handingFault? words (Variables.handedOn environment) = none := by
  rw [handingFault?_eq_none_iff] at handable ⊢
  intro text member
  rcases List.mem_append.mp member with inWords | inVariables
  · exact proper text inWords
  · obtain ⟨held, inHanded, rfl⟩ := List.mem_map.mp inVariables
    apply handable
    exact List.mem_map_of_mem (Variables.mem_of_mem_handedOn inHanded).1

end Host

namespace Program

/-! ## The program as a command -/

/-- Holds of an absolute path to the program under a name that lets it be told what to do. -/
structure IsOwnProgram (store : Store) (path : Path) : Prop where
  absolute : path.isAbsolute = true
  leads : store.node [] path true = .ok (.program programName)
  named : Path.fileName? path ≠ some (Path.ofText Invocation.aliasName)

/-- Between its start and its end the program writes nothing but its report. -/
theorem runOwn_start (words : List Bytes) (world : World) :
    ∃ task, machine.runOwn (words.map Host.spelled) (Host.Task.start world) =
      (some (runLocal words world).1.ending, task) ∧
        task.received 0 = (runLocal words world).1.output ∧
        task.world = (runLocal words world).2 := by
  have same : (words.map Host.spelled).map Host.bytes = words := by
    rw [List.map_map]
    conv => rhs; rw [← List.map_id words]
    apply List.map_congr_left
    intro word _
    exact Host.bytes_spelled word
  have own : machine.own ((words.map Host.spelled).map Host.bytes) (Host.Task.start world).world =
      runLocal words world := by
    rw [same]
    rfl
  unfold Host.Machine.runOwn
  rw [own]
  exact ⟨_, rfl, List.append_nil _, rfl⟩

namespace IsOwnProgram

variable {store : Store} {path : Path}

theorem keeps
    {after : Store}
    (own : IsOwnProgram store path)
    (keeps : Store.Keeps store after) :
    IsOwnProgram after path :=
  ⟨own.absolute, keeps.node own.leads, own.named⟩

theorem node (own : IsOwnProgram store path) (here : Place) :
    store.node here path true = .ok (.program programName) := by
  have base : Store.linkBase here path = Store.linkBase [] path := by
    unfold Store.linkBase
    rw [own.absolute]
    rfl
  have leads := own.leads
  unfold Store.node Store.locate Store.reach at leads ⊢
  rw [base]
  exact leads

theorem checkPath (own : IsOwnProgram store path) : Store.checkPath path = .ok () := by
  have leads := own.leads
  unfold Store.node Store.locate at leads
  cases valid : Store.checkPath path with
  | error cause =>
      rw [valid] at leads
      contradiction
  | ok _ => rfl

theorem proper (own : IsOwnProgram store path) :
    (0 : UInt8) ∉ path ∧ path.length < Host.stringBound := by
  have valid := own.checkPath
  unfold Store.checkPath Store.pathBound at valid
  split_ifs at valid with zero filled long
  refine ⟨by simpa using zero, ?_⟩
  unfold Host.stringBound
  omega

theorem findProgram
    {world : World}
    (own : IsOwnProgram world.store path) :
    Host.findProgram world path = .ok path := by
  have slashed : path.contains Path.slash = true := by
    have starts := own.absolute
    unfold Path.isAbsolute at starts
    rw [decide_eq_true_eq] at starts
    exact List.contains_iff_mem.mpr (List.mem_of_head? starts)
  have noObstacle : Host.obstacle world.store world.here path = none := by
    unfold Host.obstacle Host.ownObstacle Store.read
    rw [own.node world.here]
    rfl
  unfold Host.findProgram
  rw [if_pos slashed, noObstacle]

theorem start
    {inner : Host.Inner}
    {words : Host.Words}
    {task : Host.Task}
    (own : IsOwnProgram task.world.store path) :
    machine.start inner path words task = machine.runOwn words task := by
  have noTool : Host.toolbox.lookup programName = none := by decide
  have asked : Host.ask (fun store here => store.node here path true) task =
      (.ok (.program programName), task) := by
    unfold Host.ask
    show (task.world.store.node task.world.here path true, task) = _
    rw [own.node]
  have noShell : ¬programName = Host.shellTitle := by decide
  have noEnv : ¬programName = Host.envTitle := by decide
  unfold Host.Machine.start
  simp only [bind, StateT.bind, asked, if_neg noShell, if_neg noEnv, noTool]

/-- The program comes to its end with its report. -/
theorem launcher
    {world : World}
    {program : String}
    {arguments : List String}
    (own : IsOwnProgram world.store (Utf8.encode program))
    (handable : Host.handingFault? ((program :: arguments).map Utf8.encode) world.environment =
      none) :
    ∃ elapsed, machine.launcher ⟨program, arguments⟩ world =
      (.ok ⟨(runLocal ((program :: arguments).map Utf8.encode) world).1.ending,
        (runLocal ((program :: arguments).map Utf8.encode) world).1.output, elapsed⟩,
        (runLocal ((program :: arguments).map Utf8.encode) world).2) := by
  have notForeign : Host.Machine.launcher.isForeign world (Utf8.encode program) = false := by
    unfold Host.Machine.launcher.isForeign
    rw [own.node]
  obtain ⟨task, ends, received, left⟩ :=
    runOwn_start ((program :: arguments).map Utf8.encode) world
  have ran : machine.run (Utf8.encode program) ((program :: arguments).map Utf8.encode) world =
      (some (runLocal ((program :: arguments).map Utf8.encode) world).1.ending, task) :=
    (start own).trans ends
  unfold Host.Machine.launcher
  simp only [handable, own.findProgram, notForeign, ran, received, left, Option.getD_some,
    Bool.false_eq_true, if_false]
  exact ⟨_, rfl⟩

end IsOwnProgram

/-! ## The command that unseals -/

/-- What the program is told when it unseals a request. -/
def ownArguments : List String :=
  ["unseal", "--json", "--priv-file", "./" ++ Exchange.keyLinkName]

theorem proper_ownArguments :
    ∀ word ∈ ownArguments.map Utf8.encode,
      (0 : UInt8) ∉ word ∧ word.length < Host.stringBound := by
  decide

/-- The path of the env file, seen from the directory of the command. -/
def requestPath : Path := Path.ofText Exchange.requestFileName

/-- The path of the key file, seen from the directory of the command. -/
def linkPath : Path := Path.ofText ("./" ++ Exchange.keyLinkName)

theorem parse_ownArguments
    {program : Path}
    (named : Path.fileName? program ≠ some (Path.ofText Invocation.aliasName)) :
    Invocation.parse (program :: ownArguments.map Utf8.encode) =
      .ok (.unsealFile requestPath linkPath true []) := by
  unfold Invocation.parse
  dsimp only
  rw [if_neg named]
  decide

/-- The report of the command. -/
def unsealingReport : Except Failure Vault.Unsealed → Report
  | .ok unsealed => unsealedReport requestPath true unsealed
  | .error failure => failureReport failure

theorem reporting_of_ok
    {action : Action Failure Report}
    {report : Report}
    {world after : World}
    (succeeds : action world = (.ok report, after)) :
    reporting action world = (report, after) := by
  unfold reporting
  simp only [ExceptT.run, bind, StateT.bind, succeeds]
  rfl

theorem reporting_of_error
    {action : Action Failure Report}
    {failure : Failure}
    {world after : World}
    (fails : action world = (.error failure, after)) :
    reporting action world = (failureReport failure, after) := by
  unfold reporting
  simp only [ExceptT.run, bind, StateT.bind, fails]
  rfl

/-- The command reports what unsealing the file gives. -/
theorem runLocal_ownArguments
    {program : Path}
    (named : Path.fileName? program ≠ some (Path.ofText Invocation.aliasName))
    {result : Except Failure Vault.Unsealed}
    {world : World}
    (unseals : Vault.unsealSource (.file requestPath) linkPath [] world = (result, world)) :
    runLocal (program :: ownArguments.map Utf8.encode) world = (unsealingReport result, world) := by
  have ran : runLocal (program :: ownArguments.map Utf8.encode) world =
      reporting (do
        let unsealed ← Vault.unsealSource (.file requestPath) linkPath []
        return unsealedReport requestPath true unsealed) world := by
    unfold runLocal
    rw [parse_ownArguments named]
    rfl
  rw [ran]
  cases result with
  | error failure => exact reporting_of_error (Action.bind_of_error unseals _)
  | ok unsealed => exact reporting_of_ok (Action.bind_of_ok unseals _)

/-- Of what the command wrote, the service reads the plaintexts, and nothing if it failed. -/
theorem toOption_result
    {result : Except Failure Vault.Unsealed}
    {elapsed limit : Span}
    (inTime : elapsed.nanos < limit.nanos) :
    (Exchange.Outcome.result limit
      ⟨(unsealingReport result).ending, (unsealingReport result).output, elapsed⟩).toOption =
        (result.map (·.values)).toOption := by
  cases result with
  | error failure =>
      unfold Exchange.Outcome.result
      rw [if_neg (Nat.not_le.mpr inTime)]
      cases failure <;> rfl
  | ok unsealed =>
      have output : FlatJson.decode? (unsealingReport (.ok unsealed)).output =
          some unsealed.values :=
        FlatJson.decode?_encode_feed unsealed.values
      exact congrArg Except.toOption (Exchange.Outcome.result_of_decode inTime rfl output)

end Program

end SealedEnv
