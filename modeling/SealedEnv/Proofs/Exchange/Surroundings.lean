import SealedEnv.Launch.Target
import SealedEnv.Proofs.Exchange.Delegated
import SealedEnv.Proofs.Variables

/-!
Contract: the environment of a command that opens a request is that of a target without plaintexts.

Owns:
- `Launcher.within`, which runs commands in a given environment;
- the environment of a target without plaintexts, as the variables that are not reserved;
- the law that a command makes of a request what it makes of it in that environment.

Does not own: what a command does with its environment.
-/

namespace SealedEnv

/-! ## The environment -/

/-- Without plaintexts a target has the variables that are not reserved, as they are. -/
theorem Launch.targetVariables_empty (environment : List Variable) :
    targetVariables environment .empty =
      environment.filter fun candidate => !isReserved candidate.1 := by
  have noneReplaced : ∀ candidate, isReplaced .empty candidate = false := by
    intro candidate
    unfold isReplaced
    cases Utf8.decode? candidate.1 with
    | none => rfl
    | some name => rfl
  unfold targetVariables
  simp only [noneReplaced, Bool.not_false, List.filter_true]
  exact List.append_nil _

/-- Where something is reserved a command is handed the handed form of what a target is handed,
although a name is read as a text for the one and byte by byte for the other. -/
theorem Variables.handedOn_of_reserved
    {environment : List Variable}
    (reserved : ∃ candidate ∈ environment, Utf8.encode reservedStart <+: candidate.1) :
    handedOn environment = sorted (Launch.targetVariables environment .empty) := by
  obtain ⟨candidate, member, starts⟩ := reserved
  have isReserved : isReservedText candidate.1 = true := by
    rw [isReservedText_eq_isReserved, ← Bool.not_eq_false, isReserved_eq_false_iff]
    exact not_not_intro starts
  unfold handedOn
  rw [if_pos (List.any_eq_true.mpr ⟨candidate, member, isReserved⟩)]
  simp only [isReservedText_eq_isReserved, Launch.targetVariables_empty]

theorem Variables.lastValue?_handedOn_eq_target (environment : List Variable) (name : Bytes) :
    lastValue? (handedOn environment) name =
      lastValue? (Launch.targetVariables environment .empty) name := by
  rw [lastValue?_handedOn, Launch.targetVariables_empty]
  simp only [isReservedText_eq_isReserved]

/-- A target has the values of the names that do not begin with the reserved bytes. -/
theorem Variables.lastValue?_targetVariables_eq_some_iff
    {environment : List Variable}
    {name value : Bytes} :
    lastValue? (Launch.targetVariables environment .empty) name = some value ↔
      ¬Utf8.encode reservedStart <+: name ∧ lastValue? environment name = some value := by
  rw [Launch.targetVariables_empty, lastValue?_filter (!isReserved ·),
    ← isReserved_eq_false_iff]
  cases isReserved name with
  | true => simp
  | false => simp

theorem Variables.lastValue?_handedOn_eq_some_iff
    {environment : List Variable}
    {name value : Bytes} :
    lastValue? (handedOn environment) name = some value ↔
      ¬Utf8.encode reservedStart <+: name ∧ lastValue? environment name = some value := by
  rw [lastValue?_handedOn_eq_target, lastValue?_targetVariables_eq_some_iff]

theorem Variables.mem_handedOn_iff
    {environment : List Variable}
    (reserved : ∃ candidate ∈ environment, Utf8.encode reservedStart <+: candidate.1)
    {name value : Bytes} :
    (name, value) ∈ handedOn environment ↔
      ¬Utf8.encode reservedStart <+: name ∧ lastValue? environment name = some value := by
  rw [handedOn_of_reserved reserved, mem_sorted_iff, lastValue?_targetVariables_eq_some_iff]

namespace Exchange

/-- Runs commands as the given launcher does, but in the given environment. -/
def Launcher.within (launch : Launcher) (environment : List Variable) : Launcher :=
  fun command world => launch command { world with environment }

/-! ## Commands in their environment -/

theorem runIn_within
    (launch : Launcher)
    (work : Place)
    (command : Command)
    (limit : Span)
    (world : World) :
    runIn (launch.within (Variables.handedOn world.environment)) work command limit world =
      runIn launch work command limit world :=
  rfl

section Congr

variable {launch other : Launcher} {keyPath : Path} {limit : Span} {request : EnvMap}
  {world between : World} {work : Place}

/-- The world of a command has the environment that the run began with. -/
theorem environment_of_filled
    {prepared : World}
    (makes : makeWorkFolder world = (.ok work, between))
    (fills : fillWorkFolder work keyPath request between = (.ok (), prepared)) :
    prepared.environment = world.environment := by
  obtain ⟨-, -, -, rfl⟩ := makeWorkFolder_eq_ok makes
  rw [fillWorkFolder_eq_ok fills]

theorem delegatedWithin_congr
    {command : Command}
    (same : ∀ prepared, fillWorkFolder work keyPath request between = (.ok (), prepared) →
      runIn launch work command limit prepared = runIn other work command limit prepared) :
    delegatedWithin launch work command keyPath limit request between =
      delegatedWithin other work command keyPath limit request between := by
  unfold delegatedWithin
  rcases fills : fillWorkFolder work keyPath request between with ⟨failure | done, prepared⟩
  · rw [Action.bind_of_error fills, Action.bind_of_error fills]
  · have sameRun := same prepared fills
    rw [Action.bind_of_ok fills, Action.bind_of_ok fills]
    rcases runs : runIn launch work command limit prepared with ⟨failure | outcome, after⟩
    · rw [Action.bind_of_error runs, Action.bind_of_error (sameRun.symm.trans runs)]
    · rw [Action.bind_of_ok runs, Action.bind_of_ok (sameRun.symm.trans runs)]

/-- A run is the same with launchers between which the command makes no difference. -/
theorem delegated_congr
    {command : List String}
    (same : ∀ work command prepared, prepared.environment = world.environment →
      runIn launch work command limit prepared = runIn other work command limit prepared) :
    delegated launch command keyPath limit request world =
      delegated other command keyPath limit request world := by
  cases command with
  | nil => rfl
  | cons program arguments =>
      rcases makes : makeWorkFolder world with ⟨failure | work, between⟩
      · rw [delegated_of_unmade makes, delegated_of_unmade makes]
      · have sameWithin : delegatedWithin launch work ⟨program, arguments⟩ keyPath limit request
            between = delegatedWithin other work ⟨program, arguments⟩ keyPath limit request
            between :=
          delegatedWithin_congr fun prepared fills =>
            same work _ prepared (environment_of_filled makes fills)
        rw [delegated_of_made makes, delegated_of_made makes]
        unfold Action.discardingTree
        rw [sameWithin]

end Congr

/-- What a command makes of a request, it makes of it in the environment that is handed on, in which
it is started.  As a map from names to values that is the environment that is made for a target
without plaintexts, and it has the values of the names that do not begin with the reserved bytes,
and no others.  Names need not be texts, and of several variables of a name the last one counts.
Where nothing is reserved the environment is handed on as it is, and else each name once and in
order. -/
theorem delegated_strips_as_target
    (launch : Launcher)
    (command : List String)
    (keyPath : Path)
    (limit : Span)
    (request : EnvMap)
    (world : World) :
    let target := Launch.targetVariables world.environment .empty
    let handed := Variables.handedOn world.environment
    delegated launch command keyPath limit request world =
      delegated (launch.within handed) command keyPath limit request world ∧
    (∀ program arguments work between prepared, command = program :: arguments →
      makeWorkFolder world = (.ok work, between) →
      fillWorkFolder work keyPath request between = (.ok (), prepared) →
        (surroundings prepared work).environment = handed ∧
        (delegated launch command keyPath limit request world).1 =
          resultOf limit (launch ⟨program, arguments⟩ (surroundings prepared work)).1) ∧
    (∀ name, Variables.lastValue? handed name = Variables.lastValue? target name) ∧
    (∀ name value, Variables.lastValue? handed name = some value ↔
      ¬Utf8.encode "OJSTER_" <+: name ∧
        Variables.lastValue? world.environment name = some value) ∧
    (∀ candidate ∈ handed, candidate ∈ world.environment ∧
      ¬Utf8.encode "OJSTER_" <+: candidate.1) ∧
    ((∀ candidate ∈ world.environment, ¬Utf8.encode "OJSTER_" <+: candidate.1) →
      handed = world.environment) ∧
    ((∃ candidate ∈ world.environment, Utf8.encode "OJSTER_" <+: candidate.1) →
      handed = Variables.sorted target ∧
      ∀ name value, (name, value) ∈ handed ↔
        ¬Utf8.encode "OJSTER_" <+: name ∧
          Variables.lastValue? world.environment name = some value) := by
  intro target handed
  refine ⟨?_, ?_, Variables.lastValue?_handedOn_eq_target _,
    fun name value => Variables.lastValue?_handedOn_eq_some_iff,
    fun candidate => Variables.mem_of_mem_handedOn, Variables.handedOn_of_noneReserved,
    fun reserved => ⟨Variables.handedOn_of_reserved reserved,
      fun name value => Variables.mem_handedOn_iff reserved⟩⟩
  · apply delegated_congr
    intro work command prepared sameEnvironment
    show _ =
      runIn (launch.within (Variables.handedOn world.environment)) work command limit prepared
    rw [← sameEnvironment, runIn_within]
  · rintro program arguments work between prepared rfl makes fills
    have launched : Launched launch ⟨program, arguments⟩ keyPath request world _ :=
      ⟨work, between, prepared, makes, fills, rfl⟩
    exact ⟨congrArg Variables.handedOn (environment_of_filled makes fills),
      launched.delegated_eq limit⟩

end Exchange

end SealedEnv
