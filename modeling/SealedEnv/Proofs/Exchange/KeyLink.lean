import SealedEnv.Proofs.Exchange.WorkFolder
import SealedEnv.Proofs.Store.KnownNames
import SealedEnv.Proofs.Store.OwnEntry

/-!
Contract: where the link to the private key file leads, seen from the working directory.

Owns:
- the ways that the two entries of a working directory open: one ends at the request, and one comes
  back to the path of the key;
- when the link leads to the file that the configured path leads to.

Does not own: what is done with the key.
-/

namespace SealedEnv.Exchange

open Store

/-! ## Ways through the link -/

section Ways

variable {store : Store} {work : Place} {keyPath : Path} {request : EnvMap} {found : Place}
  {held : Node}

theorem walkWith_filled_cases
    {returns : Prop}
    (notRequest : found ≠ Path.ofText requestFileName :: work)
    {jump otherJump : Place → List Name → Except Errno Found}
    (jumps : ∀ base pieces, jump base pieces = .ok (.present found held) →
      otherJump base pieces = .ok (.present found held) ∨ returns)
    (comesBack : ∀ more, jump (linkBase work keyPath) (keyPath.pieces ++ more) =
      .ok (.present found held) → returns)
    {directory : Place}
    {pieces : List Name}
    (leads : walkWith (filled store work keyPath request) true jump directory pieces =
      .ok (.present found held)) :
    walkWith store true otherJump directory pieces = .ok (.present found held) ∨ returns := by
  induction pieces generalizing directory with
  | nil => exact .inl leads
  | cons piece rest inductionHypothesis =>
      rcases piece_cases piece with idle | rfl | isName
      · rw [walkWith_idle _ _ _ _ idle] at leads ⊢
        exact inductionHypothesis leads
      · rw [walkWith_up] at leads ⊢
        exact inductionHypothesis leads
      · obtain ⟨short, node, standing, outcome⟩ := walkWith_name_eq_present _ _ _ _ isName leads
        rw [walkWith_name _ _ _ _ isName, if_neg (Nat.not_lt.mpr short)] at leads ⊢
        have looked := standing
        rw [look_filled] at looked
        split_ifs at looked with isLink isRequest
        · cases looked
          rcases outcome with ⟨isDirectory, -⟩ | ⟨target, isTarget, -, further⟩ |
            ⟨-, rfl, -, atLink⟩
          · contradiction
          · cases isTarget
            rw [(List.cons.inj isLink).2] at further
            exact .inr (comesBack rest further)
          · have ends := atLink keyPath rfl
            contradiction
        · cases looked
          rcases outcome with ⟨isDirectory, -⟩ | ⟨target, isTarget, -, -⟩ | ⟨rfl, -, -, -⟩
          · contradiction
          · contradiction
          · rw [standing] at leads
            cases leads
            exact absurd isRequest notRequest
        · rcases outcome with ⟨rfl, further⟩ | ⟨target, rfl, goesOn, further⟩ |
            ⟨rfl, rfl, other, atLink⟩
          · rw [looked]
            exact inductionHypothesis further
          · simp only [looked, if_neg goesOn]
            exact jumps _ _ further
          · rw [standing] at leads
            rw [looked]
            cases node with
            | directory => contradiction
            | link target => exact absurd (atLink target rfl) (by simp)
            | _ => exact .inl leads

/-- A way that ends outside of a working directory does not pass its entries, or it follows the link
in it: then what is left of the way is the path of the key and the pieces after the link, with one
link less to follow. -/
theorem walk_filled_cases
    (notRequest : found ≠ Path.ofText requestFileName :: work)
    {links : Nat}
    {directory : Place}
    {pieces : List Name}
    (leads : walk (filled store work keyPath request) true links directory pieces =
      .ok (.present found held)) :
    walk store true links directory pieces = .ok (.present found held) ∨
      ∃ fewer < links, ∃ more, walk (filled store work keyPath request) true fewer
        (linkBase work keyPath) (keyPath.pieces ++ more) = .ok (.present found held) := by
  induction links generalizing directory pieces with
  | zero =>
      exact walkWith_filled_cases notRequest (fun _ _ fails => by contradiction)
        (fun _ fails => by contradiction) leads
  | succ links inductionHypothesis =>
      refine walkWith_filled_cases notRequest ?_ ?_ leads
      · intro base pieces further
        rcases inductionHypothesis further with same | ⟨fewer, less, more, again⟩
        · exact .inl same
        · exact .inr ⟨fewer, Nat.lt_succ_of_lt less, more, again⟩
      · intro more again
        exact ⟨links, Nat.lt_succ_self links, more, again⟩

/-- The path of the key leads to something outside of a working directory without the link in it. -/
theorem walk_of_filled
    (notRequest : found ≠ Path.ofText requestFileName :: work)
    (noDirectory : held ≠ .directory)
    {links : Nat}
    (leads : walk (filled store work keyPath request) true links (linkBase work keyPath)
      keyPath.pieces = .ok (.present found held)) :
    walk store true links (linkBase work keyPath) keyPath.pieces = .ok (.present found held) := by
  induction links using Nat.strongRecOn with
  | ind links inductionHypothesis =>
      rcases walk_filled_cases notRequest leads with same | ⟨fewer, less, more, again⟩
      · exact same
      -- The way came back to the path of the key, which leads to a directory if pieces follow it.
      · by_cases ends : more = []
        · rw [ends, List.append_nil] at again
          exact walk_le_of_present (Nat.le_of_lt less) (inductionHypothesis fewer less again)
        · obtain ⟨place, toDirectory⟩ := exists_walk_prefix (fun empty => absurd empty ends) again
          exact absurd (present_unique leads toDirectory) noDirectory

end Ways

/-! ## The key file -/

section KeyFile

variable {world between prepared : World} {work : Place} {keyPath : Path} {request : EnvMap}
  (makes : makeWorkFolder world = (.ok work, between))

include makes

/-- Nothing stands in a directory that was just made. -/
theorem look_entry_of_made (piece : Name) : between.store.look (piece :: work) = none := by
  have vacant := look_of_made makes (List.suffix_cons piece work)
  obtain ⟨above, rfl, -, rfl⟩ := makeWorkFolder_eq_ok makes
  rw [look_insert_name, if_neg (by simp), vacant]

/-- The link leads to a file from before just if its path, seen from the working directory, does
so. -/
theorem locate_keyLink_iff
    (fills : fillWorkFolder work keyPath request between = (.ok (), prepared))
    {place : Place}
    {node : Node}
    (noDirectory : node ≠ .directory)
    (standing : world.store.look place = some node) :
    prepared.store.locate work (Path.ofText keyLinkName) true = .ok (.present place node) ↔
      between.store.walk true (linkLimit - 1) (linkBase work keyPath) keyPath.pieces =
        .ok (.present place node) := by
  obtain rfl := fillWorkFolder_eq_ok fills
  have link : (filled between.store work keyPath request).look
      (Path.ofText keyLinkName :: work) = some (.link keyPath) := by
    rw [look_filled, if_pos rfl]
  rw [isEntryPath_keyLink.locate_link link]
  constructor
  · intro leads
    apply walk_of_filled ?_ noDirectory (mapError_eq_ok leads)
    rintro rfl
    rw [look_of_made makes (List.suffix_cons _ work)] at standing
    contradiction
  · intro leads
    have keeps := keeps_filled (look_entry_of_made makes _) (look_entry_of_made makes _) keyPath
      request
    rw [keeps _ _ _ _ _ _ leads]
    rfl

/-- A relative path that begins with a name leads to nothing from a directory in which nothing
stands. -/
theorem walk_keyPath_ne_of_name
    (relative : keyPath.isAbsolute = false)
    {piece : Name}
    {rest : List Name}
    (begins : keyPath.pieces.dropWhile Path.isIdle = piece :: rest)
    (isName : IsName piece)
    (links : Nat)
    (place : Place)
    (node : Node) :
    between.store.walk true links (linkBase work keyPath) keyPath.pieces ≠
      .ok (.present place node) := by
  rw [linkBase_of_relative relative, walk_dropIdle, begins]
  exact walk_ne_present_of_vacant isName (look_entry_of_made makes piece) links rest

/-- The directory changes nothing for a way that does not pass it. -/
theorem walk_between_of_aside
    {links : Nat}
    {directory : Place}
    {pieces : List Name}
    (aside : work ∉ world.store.trail true links directory pieces) :
    between.store.walk true links directory pieces =
      world.store.walk true links directory pieces := by
  obtain ⟨above, rfl, -, rfl⟩ := makeWorkFolder_eq_ok makes
  apply walk_congr
  intro place onTrail
  rw [look_insert_name, if_neg]
  rintro rfl
  exact aside onTrail

/-- A key file that is read in process is what the link in the working directory leads to just if
its path, seen from the working directory in place of the directory of the service, leads to it as
well, with one link to spare.  No relative path that begins with a name does.  Whether a path does
may depend on the working directory itself, but not if its name was drawn aside from the path; and a
name that occurred nowhere is. -/
theorem keyLink_leads_iff
    (fills : fillWorkFolder work keyPath request between = (.ok (), prepared))
    {data : Bytes}
    (reads : world.store.read world.here keyPath = .ok data) :
    ∃ place node, world.store.locate world.here keyPath true = .ok (.present place node) ∧
      ((surroundings prepared work).store.locate (surroundings prepared work).here
          (Path.ofText keyLinkName) true = .ok (.present place node) ↔
        between.store.walk true (linkLimit - 1) (linkBase work keyPath) keyPath.pieces =
          .ok (.present place node)) ∧
      (∀ piece rest, keyPath.isAbsolute = false →
        keyPath.pieces.dropWhile Path.isIdle = piece :: rest → IsName piece →
          (surroundings prepared work).store.locate (surroundings prepared work).here
            (Path.ofText keyLinkName) true ≠ .ok (.present place node)) ∧
      (work ∉ world.store.trail true (linkLimit - 1) (linkBase work keyPath) keyPath.pieces →
        ((surroundings prepared work).store.locate (surroundings prepared work).here
            (Path.ofText keyLinkName) true = .ok (.present place node) ↔
          world.store.walk true (linkLimit - 1) (linkBase work keyPath) keyPath.pieces =
            .ok (.present place node))) ∧
      (workName world ∉ world.store.knownNames →
        work ∉ world.store.trail true (linkLimit - 1) (linkBase work keyPath) keyPath.pieces) := by
  obtain ⟨place, node, noDirectory, located⟩ := exists_locate_of_read reads
  have direct := walk_of_locate located
  have leads := locate_keyLink_iff makes fills noDirectory (look_of_walk noDirectory direct)
  refine ⟨place, node, located, leads, ?_, fun aside => ?_, fun unknown => ?_⟩
  · intro piece rest relative begins isName linked
    exact walk_keyPath_ne_of_name makes relative begins isName _ place node (leads.mp linked)
  · rw [← walk_between_of_aside makes aside]
    exact leads
  · have absent : workName world ∉ keyPath.pieces := by
      intro member
      exact unknown (mem_knownNames_of_walk direct _ member (isName_workName world))
    obtain ⟨above, rfl, -, -⟩ := makeWorkFolder_eq_ok makes
    exact not_mem_trail unknown absent

end KeyFile

/-! ## Two ways to one key -/

namespace KeyPaths

/-- A service in the directory `/srv`, where its key is. -/
def world : World :=
  { (default : World) with
    store := ⟨[([Path.ofText "tmp"], .directory), ([Path.ofText "srv"], .directory),
      ([Path.ofText "k", Path.ofText "srv"], .file 0o600 [75])]⟩
    here := [Path.ofText "srv"] }

def keyPlace : Place := [Path.ofText "k", Path.ofText "srv"]

def work : Place := [Path.ofText "ojster-000000", Path.ofText "tmp"]

def between : World := (makeWorkFolder world).2

/-- The world of a command, after the working directory is filled. -/
def prepared (keyPath : Path) : World := (fillWorkFolder work keyPath .empty between).2

theorem makes : makeWorkFolder world = (.ok work, between) :=
  Prod.ext (by decide +kernel) rfl

end KeyPaths

open KeyPaths in
/-- The absolute path of the key leads to it from everywhere. -/
theorem keyLink_leads_absolute :
    world.store.read world.here (Path.ofText "/srv/k") = .ok [75] ∧
      (surroundings (prepared (Path.ofText "/srv/k")) work).store.locate work
        (Path.ofText keyLinkName) true = .ok (.present keyPlace (.file 0o600 [75])) := by
  have reads : world.store.read world.here (Path.ofText "/srv/k") = .ok [75] := by
    decide +kernel
  have fills : fillWorkFolder work (Path.ofText "/srv/k") .empty between =
      (.ok (), prepared (Path.ofText "/srv/k")) :=
    Prod.ext (by decide +kernel) rfl
  obtain ⟨place, node, located, leads, -⟩ := keyLink_leads_iff makes fills reads
  have found : world.store.locate world.here (Path.ofText "/srv/k") true =
      .ok (.present keyPlace (.file 0o600 [75])) := by
    decide +kernel
  rw [found] at located
  cases located
  exact ⟨reads, leads.mpr (by decide +kernel)⟩

open KeyPaths in
/-- The name of the key is read in the directory of the service, and the command, which can be
started, finds nothing behind its link. -/
theorem keyLink_misses_relative :
    world.store.read world.here (Path.ofText "k") = .ok [75] ∧
      makeWorkFolder world = (.ok work, between) ∧
      fillWorkFolder work (Path.ofText "k") .empty between =
        (.ok (), prepared (Path.ofText "k")) ∧
      (surroundings (prepared (Path.ofText "k")) work).store.locate work
        (Path.ofText keyLinkName) true = .ok (.absent work (Path.ofText "k") false) :=
  ⟨by decide +kernel, makes, Prod.ext (by decide +kernel) rfl, by decide +kernel⟩

end SealedEnv.Exchange
