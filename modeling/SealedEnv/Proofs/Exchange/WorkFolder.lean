import SealedEnv.Exchange.Delegated
import SealedEnv.Proofs.Store.FreshFolder

/-!
Contract: the working directory in which a command finds a request.

Owns:
- the name of the directory, and the place where it is made, at which nothing stood and below which
  nothing stands;
- `Prepared`, what stands in the directory and what stays as it was;
- making and filling change nothing outside of the directory;
- `prepared_of_made`: a directory that could be made is filled, whatever the request is;
- `delegated_of_filled`: the result is what the outcome of the command means, and the directory is
  taken away, as far as nothing in it is stuck.

Does not own: what commands do.
-/

namespace SealedEnv.Exchange

/-! ## The directory -/

theorem noSlash_workName (world : World) : Path.slash ∉ workName world := by
  unfold workName NameSource.name
  rw [List.mem_append, not_or]
  exact ⟨by decide, world.names.noSlash _ _ _⟩

theorem isName_workName (world : World) : Store.IsName (workName world) := by
  have start : Path.ofText workStart = 111 :: 106 :: [115, 116, 101, 114, 45] := by decide
  unfold workName NameSource.name
  rw [start]
  exact ⟨by simp [Path.isIdle, Path.dot], by simp [Path.dotDot]⟩

theorem path_ne_nil (place : Place) : place.path ≠ [] := by
  unfold Place.path
  cases place with
  | nil => simp
  | cons name above => simp

theorem join_ne_nil
    {base : Path}
    (filled : base ≠ [])
    (path : Path) :
    base.join path ≠ [] := by
  unfold Path.join
  split_ifs with stays ends
  · rcases Bool.or_eq_true_iff.mp stays with absolute | isEmpty
    · rintro rfl
      contradiction
    · exact absurd (List.isEmpty_iff.mp isEmpty) filled
  · simp [filled]
  · simp

theorem pieces_workPath (world : World) :
    ∃ front, (workPath world).pieces = front ++ [workName world] := by
  unfold workPath
  apply Store.pieces_join
  · apply join_ne_nil
    exact path_ne_nil world.here
  · exact noSlash_workName world

/-- A directory that is made is where its path leads, and nothing stood there or below. -/
theorem makeWorkFolder_eq_ok
    {world after : World}
    {work : Place}
    (makes : makeWorkFolder world = (.ok work, after)) :
    ∃ above, work = workName world :: above ∧ world.store.occupied work = false ∧
      after = { world with
        store := world.store.insert work .directory, refusals := world.refusals.tail } := by
  obtain ⟨front, pieces⟩ := pieces_workPath world
  unfold makeWorkFolder at makes
  rw [Action.bind_of_ok (Action.get_apply world)] at makes
  obtain ⟨_, between, made, located⟩ := Action.bind_eq_ok_iff.mp makes
  rw [Action.withCause_eq_ok_iff] at made
  obtain ⟨store, makesDirectory, rfl⟩ := Action.change_eq_ok made
  obtain ⟨above, free, rfl, leads⟩ :=
    Store.makeDirectory_eq_ok pieces (isName_workName world).filled makesDirectory
  rw [Action.bind_of_ok (Action.get_apply _)] at located
  simp only [leads] at located
  cases located
  exact ⟨above, rfl, free, rfl⟩

/-- Nothing stands at a directory that is made, or below it, before it is made. -/
theorem look_of_made
    {world after : World}
    {work place : Place}
    (makes : makeWorkFolder world = (.ok work, after))
    (inside : work <:+ place) :
    world.store.look place = none := by
  obtain ⟨above, rfl, free, -⟩ := makeWorkFolder_eq_ok makes
  apply Store.look_of_not_occupied free inside
  rintro rfl
  have ends := List.suffix_nil.mp inside
  contradiction

theorem isEntryPath_requestFile : Store.IsEntryPath (Path.ofText requestFileName) where
  isName := ⟨by decide, by decide⟩
  short := by decide
  noZero := by decide
  noSlash := by decide

theorem isEntryPath_keyLink : Store.IsEntryPath (Path.ofText keyLinkName) where
  isName := ⟨by decide, by decide⟩
  short := by decide
  noZero := by decide
  noSlash := by decide

/-- The file that holds a request. -/
def requestNode (request : EnvMap) : Node :=
  .file AtomicWrite.ownerMode (Utf8.encode (EnvFile.printAll request.entries))

/-- Holds of a world in which a command finds a request and a link to a private key file in a
directory, and everything else that it would have found before. -/
structure Prepared
    (before : World)
    (work : Place)
    (keyPath : Path)
    (request : EnvMap)
    (after : World) : Prop where
  requestFile : after.store.look (Path.ofText requestFileName :: work) = some (requestNode request)
  keyLink : after.store.look (Path.ofText keyLinkName :: work) = some (.link keyPath)
  keeps : Store.Keeps before.store after.store
  environment : after.environment = before.environment
  clock : after.clock = before.clock

/-- A store with the two entries of a working directory. -/
def filled (store : Store) (work : Place) (keyPath : Path) (request : EnvMap) : Store :=
  (store.insert (Path.ofText requestFileName :: work) (requestNode request)).insert
    (Path.ofText keyLinkName :: work) (.link keyPath)

theorem entries_apart (work : Place) :
    Path.ofText requestFileName :: work ≠ Path.ofText keyLinkName :: work := by
  intro same
  have names : Path.ofText requestFileName ≠ Path.ofText keyLinkName := by decide
  exact names (List.cons.inj same).1

theorem look_filled
    (store : Store)
    (work : Place)
    (keyPath : Path)
    (request : EnvMap)
    (place : Place) :
    (filled store work keyPath request).look place =
      if place = Path.ofText keyLinkName :: work then some (.link keyPath)
      else if place = Path.ofText requestFileName :: work then some (requestNode request)
      else store.look place := by
  unfold filled
  rw [Store.look_insert_name, Store.look_insert_name]

/-- Filling a directory that succeeds makes the two entries and nothing else. -/
theorem fillWorkFolder_eq_ok
    {world after : World}
    {work : Place}
    {keyPath : Path}
    {request : EnvMap}
    (fills : fillWorkFolder work keyPath request world = (.ok (), after)) :
    after = { world with
      store := filled world.store work keyPath request, refusals := world.refusals.tail.tail } := by
  obtain ⟨_, between, writes, links⟩ := Action.bind_eq_ok_iff.mp fills
  rw [Action.withCause_eq_ok_iff] at writes links
  obtain ⟨_, makesFile, rfl⟩ := Action.change_eq_ok writes
  obtain ⟨_, makesLink, rfl⟩ := Action.change_eq_ok links
  obtain ⟨-, rfl⟩ := isEntryPath_requestFile.makeFile_eq_ok makesFile
  obtain ⟨-, rfl⟩ := isEntryPath_keyLink.makeLink_eq_ok makesLink
  rfl

theorem fillWorkFolder_of_vacant
    {world : World}
    {work : Place}
    {keyPath : Path}
    (fileVacant : world.store.look (Path.ofText requestFileName :: work) = none)
    (linkVacant : world.store.look (Path.ofText keyLinkName :: work) = none)
    (grants : Action.Grants world 2)
    (valid : Store.checkPath keyPath = .ok ())
    (request : EnvMap) :
    fillWorkFolder work keyPath request world =
      (.ok (), { world with
        store := filled world.store work keyPath request
        refusals := world.refusals.tail.tail }) := by
  have stillVacant : (world.store.insert (Path.ofText requestFileName :: work)
      (requestNode request)).look (Path.ofText keyLinkName :: work) = none := by
    rw [Store.look_insert_name, if_neg (entries_apart work).symm, linkVacant]
  have writes : Action.change (fun store _ => store.makeFile work (Path.ofText requestFileName)
      AtomicWrite.ownerMode (Utf8.encode (EnvFile.printAll request.entries))) world = (.ok (), _) :=
    Action.change_of_ok grants (isEntryPath_requestFile.makeFile fileVacant _ _)
  have links : Action.change (fun store _ => store.makeLink work keyPath
      (Path.ofText keyLinkName)) _ = (.ok (), _) :=
    Action.change_of_ok (grants.tail _) (isEntryPath_keyLink.makeLink stillVacant valid)
  exact (Action.bind_of_ok (Action.withCause_eq_ok_iff.mpr writes) _).trans
    (Action.withCause_eq_ok_iff.mpr links)

theorem keeps_filled
    {store : Store}
    {work : Place}
    (fileVacant : store.look (Path.ofText requestFileName :: work) = none)
    (linkVacant : store.look (Path.ofText keyLinkName :: work) = none)
    (keyPath : Path)
    (request : EnvMap) :
    Store.Keeps store (filled store work keyPath request) := by
  refine (Store.keeps_insert fileVacant (requestNode request)).trans (Store.keeps_insert ?_ _)
  rw [Store.look_insert_name, if_neg (entries_apart work).symm, linkVacant]

/-! ## Outside of it -/

/-- A directory that could be made is filled unless the system refuses it. -/
theorem prepared_of_made
    {world : World}
    {work : Place}
    {keyPath : Path}
    (made : (makeWorkFolder world).1 = .ok work)
    (grants : Action.Grants world 3)
    (valid : Store.checkPath keyPath = .ok ())
    (request : EnvMap) :
    ∃ between after, makeWorkFolder world = (.ok work, between) ∧
      fillWorkFolder work keyPath request between = (.ok (), after) ∧
      Prepared world work keyPath request after := by
  rcases makes : makeWorkFolder world with ⟨result, between⟩
  rw [makes] at made
  cases made
  have vacant := look_of_made makes (List.suffix_refl work)
  have free : ∀ entry, world.store.look (entry :: work) = none :=
    fun entry => look_of_made makes (List.suffix_cons entry work)
  obtain ⟨above, rfl, -, rfl⟩ := makeWorkFolder_eq_ok makes
  have below : ∀ entry, (world.store.insert (workName world :: above) .directory).look
      (entry :: workName world :: above) = none := by
    intro entry
    rw [Store.look_insert_name, if_neg (by simp), free]
  refine ⟨_, _, rfl,
    fillWorkFolder_of_vacant (below _) (below _) (grants.tail _) valid request, ?_⟩
  exact
    { requestFile := by rw [look_filled, if_neg (entries_apart _), if_pos rfl]
      keyLink := by rw [look_filled, if_pos rfl]
      keeps := (Store.keeps_insert vacant .directory).trans
        (keeps_filled (below _) (below _) keyPath request)
      environment := rfl
      clock := rfl }

/-! ## The command -/

/-- What a command is run in. -/
def surroundings (prepared : World) (work : Place) : World :=
  { prepared with
    here := work, environment := Variables.handedOn prepared.environment, input := .ok [] }

/-- The output of a command that succeeds in time is the result, if it is an object. -/
theorem Outcome.result_of_decode
    {limit : Span}
    {outcome : Outcome}
    {values : EnvMap}
    (inTime : outcome.elapsed.nanos < limit.nanos)
    (succeeded : outcome.ending = .exited 0)
    (decoded : FlatJson.decode? outcome.output = some values) :
    outcome.result limit = .ok values := by
  unfold Outcome.result
  rw [if_neg (Nat.not_le.mpr inTime), succeeded, decoded]
  rfl

/-- What comes of a command that was started, or could not be. -/
def resultOf (limit : Span) : Except IoError Outcome → Except Failure EnvMap
  | .error cause => .error (.subprocessSpawnFailed cause)
  | .ok outcome => outcome.result limit

section Run

variable {launch : Launcher} {keyPath : Path} {limit : Span} {request : EnvMap}
  {world between prepared there : World} {work : Place}

/-- A run whose directory could be made is what is done in the directory, which is taken away
afterwards. -/
theorem delegated_of_made
    (makes : makeWorkFolder world = (.ok work, between))
    (program : String)
    (arguments : List String) :
    delegated launch (program :: arguments) keyPath limit request world =
      Action.discardingTree work
        (delegatedWithin launch work ⟨program, arguments⟩ keyPath limit request) between :=
  Action.bind_of_ok makes _

/-- What is done in a filled directory has a result by the outcome of the command alone, and leaves
the files as the command left them. -/
theorem delegatedWithin_of_filled
    {command : Command}
    {launched : Except IoError Outcome}
    (fills : fillWorkFolder work keyPath request between = (.ok (), prepared))
    (launches : launch command (surroundings prepared work) = (launched, there)) :
    ∃ left, delegatedWithin launch work command keyPath limit request between =
        (resultOf limit launched, left) ∧
      left.store = there.store ∧ left.stuck = there.stuck ∧
      ∀ outcome, launched = .ok outcome →
        left.clock = prepared.clock + min outcome.elapsed.nanos limit.nanos := by
  obtain ⟨left, runs, sameStore, sameStuck, laterClock⟩ : ∃ left,
      runIn launch work command limit prepared =
          (launched.mapError .subprocessSpawnFailed, left) ∧
        left.store = there.store ∧ left.stuck = there.stuck ∧
        ∀ outcome, launched = .ok outcome →
          left.clock = prepared.clock + min outcome.elapsed.nanos limit.nanos := by
    unfold surroundings at launches
    unfold runIn
    simp only [launches]
    cases launched with
    | error cause => exact ⟨_, rfl, rfl, rfl, fun _ fails => by contradiction⟩
    | ok outcome =>
        refine ⟨_, rfl, rfl, rfl, fun _ same => ?_⟩
        cases same
        rfl
  refine ⟨left, ?_, sameStore, sameStuck, laterClock⟩
  unfold delegatedWithin
  rw [Action.bind_of_ok fills]
  cases launched with
  | error cause => exact Action.bind_of_error runs _
  | ok outcome => exact Action.bind_of_ok runs _

/-- A command that was started takes its time. -/
theorem delegated_apply
    {program : String}
    {arguments : List String}
    {outcome : Outcome}
    (makes : makeWorkFolder world = (.ok work, between))
    (fills : fillWorkFolder work keyPath request between = (.ok (), prepared))
    (launches : launch ⟨program, arguments⟩ (surroundings prepared work) = (.ok outcome, there)) :
    ∃ after, delegated launch (program :: arguments) keyPath limit request world =
      (outcome.result limit, after) ∧
        after.clock = prepared.clock + min outcome.elapsed.nanos limit.nanos := by
  obtain ⟨left, works, -, -, laterClock⟩ := delegatedWithin_of_filled fills launches
  rw [delegated_of_made makes]
  unfold Action.discardingTree
  rw [works]
  exact ⟨_, rfl, laterClock outcome rfl⟩

end Run

end SealedEnv.Exchange
