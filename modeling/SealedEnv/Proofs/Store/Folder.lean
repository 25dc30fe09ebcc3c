import SealedEnv.Proofs.Store.AtomicWrite

/-!
Contract: entries that are made where nothing stood, and the ways to them.

Owns:
- `Keeps`, which a new entry grants: every way that ends at something stays;
- the slot of a name that is given as a path;
- files that are read through a link;
- the way to a directory that was made.

Does not own: what the entries are for.
-/

namespace SealedEnv

namespace Store

variable {store : Store} {follow : Bool} {found : Place} {held : Node}

/-! ## Ways that stay -/

/-- Holds if every way that ends at something in a store ends there in another one too. -/
def Keeps (store after : Store) : Prop :=
  ∀ follow links directory pieces found held,
    walk store follow links directory pieces = .ok (.present found held) →
      walk after follow links directory pieces = .ok (.present found held)

/-- An entry that is made where nothing stood is on no way that ends at something. -/
theorem keeps_insert
    {name : Name}
    {above : Place}
    (vacant : store.look (name :: above) = none)
    (node : Node) :
    Keeps store (store.insert (name :: above) node) := by
  intro follow links directory pieces found held leads
  rw [walk_congr, leads]
  intro place member
  rw [look_insert_name, if_neg]
  intro same
  exact trail_standing leads place member (same ▸ vacant)

namespace Keeps

variable {after : Store} {here : Place} {path : Path}

theorem trans
    {last : Store}
    (first : Keeps store after)
    (second : Keeps after last) :
    Keeps store last := by
  intro follow links directory pieces found held leads
  apply second
  apply first
  exact leads

theorem locate
    (keeps : Keeps store after)
    (leads : store.locate here path follow = .ok (.present found held)) :
    after.locate here path follow = .ok (.present found held) := by
  unfold Store.locate at leads ⊢
  obtain ⟨_, valid, arrives⟩ := exists_of_bind_eq_ok leads
  rw [valid]
  show after.reach here path path.pieces follow = _
  unfold reach
  rw [keeps _ _ _ _ _ _ (mapError_eq_ok arrives)]
  rfl

theorem node
    (keeps : Keeps store after)
    (leads : store.node here path follow = .ok held) :
    after.node here path follow = .ok held := by
  unfold Store.node at leads ⊢
  obtain ⟨reached, located, isHeld⟩ := exists_of_bind_eq_ok leads
  cases reached with
  | absent directory name slashed => contradiction
  | present place standing =>
      rw [keeps.locate located]
      exact isHeld

end Keeps

theorem walkWith_present_mono
    {jump otherJump : Place → List Name → Except Errno Found}
    (jumps : ∀ base pieces, jump base pieces = .ok (.present found held) →
      otherJump base pieces = .ok (.present found held))
    {directory : Place}
    {pieces : List Name}
    (leads : walkWith store follow jump directory pieces = .ok (.present found held)) :
    walkWith store follow otherJump directory pieces = .ok (.present found held) := by
  induction pieces generalizing directory with
  | nil => exact leads
  | cons piece rest inductionHypothesis =>
      rcases piece_cases piece with idle | rfl | isName
      · rw [walkWith_idle _ _ _ _ idle] at leads ⊢
        exact inductionHypothesis leads
      · rw [walkWith_up] at leads ⊢
        exact inductionHypothesis leads
      · obtain ⟨short, there, standing, outcome⟩ :=
          walkWith_name_eq_present _ _ _ _ isName leads
        rw [walkWith_name _ _ _ _ isName, if_neg (Nat.not_lt.mpr short)] at leads ⊢
        rcases outcome with ⟨rfl, further⟩ | ⟨target, rfl, goesOn, further⟩ |
          ⟨rfl, rfl, other, atLink⟩
        · rw [standing]
          exact inductionHypothesis further
        · simp only [standing, if_neg goesOn]
          exact jumps _ _ further
        · rw [standing] at leads ⊢
          cases there with
          | directory => contradiction
          | link target =>
              simp only [atLink target rfl, List.isEmpty_nil, Bool.not_false, Bool.and_self,
                if_true] at leads ⊢
              exact leads
          | _ => exact leads

/-- A way that ends at something is a way of those who may follow one link more. -/
theorem walk_succ_of_present
    {links : Nat}
    {directory : Place}
    {pieces : List Name}
    (leads : walk store follow links directory pieces = .ok (.present found held)) :
    walk store follow (links + 1) directory pieces = .ok (.present found held) := by
  induction links generalizing directory pieces with
  | zero => exact walkWith_present_mono (fun _ _ fails => by contradiction) leads
  | succ links inductionHypothesis =>
      exact walkWith_present_mono (fun _ _ further => inductionHypothesis further) leads

/-! ## Ends of ways -/

theorem look_of_walkWith
    (noDirectory : held ≠ .directory)
    {jump : Place → List Name → Except Errno Found}
    (jumps : ∀ base pieces, jump base pieces = .ok (.present found held) →
      store.look found = some held)
    {directory : Place}
    {pieces : List Name}
    (leads : walkWith store follow jump directory pieces = .ok (.present found held)) :
    store.look found = some held := by
  induction pieces generalizing directory with
  | nil =>
      cases leads
      contradiction
  | cons piece rest inductionHypothesis =>
      rcases piece_cases piece with idle | rfl | isName
      · rw [walkWith_idle _ _ _ _ idle] at leads
        exact inductionHypothesis leads
      · rw [walkWith_up] at leads
        exact inductionHypothesis leads
      · obtain ⟨short, node, standing, outcome⟩ := walkWith_name_eq_present _ _ _ _ isName leads
        rcases outcome with ⟨-, further⟩ | ⟨target, -, -, further⟩ | ⟨rfl, rfl, -, atLink⟩
        · exact inductionHypothesis further
        · exact jumps _ _ further
        · rw [walkWith_name _ _ _ _ isName, if_neg (Nat.not_lt.mpr short), standing] at leads
          cases node with
          | directory => contradiction
          | link target =>
              simp only [atLink target rfl, List.isEmpty_nil, Bool.not_false, Bool.and_self,
                if_true] at leads
              cases leads
              exact standing
          | _ =>
              cases leads
              exact standing

/-- What is found at the end of a way, unless it is a directory, stands there. -/
theorem look_of_walk
    (noDirectory : held ≠ .directory)
    {links : Nat}
    {directory : Place}
    {pieces : List Name}
    (leads : walk store follow links directory pieces = .ok (.present found held)) :
    store.look found = some held := by
  induction links generalizing directory pieces with
  | zero => exact look_of_walkWith noDirectory (fun _ _ fails => by contradiction) leads
  | succ links inductionHypothesis =>
      exact look_of_walkWith noDirectory (fun _ _ further => inductionHypothesis further) leads

theorem walk_of_locate
    {here : Place}
    {path : Path}
    (located : store.locate here path follow = .ok (.present found held)) :
    walk store follow linkLimit (linkBase here path) path.pieces = .ok (.present found held) := by
  unfold locate at located
  obtain ⟨-, -, arrives⟩ := exists_of_bind_eq_ok located
  exact mapError_eq_ok arrives

/-! ## Paths -/

theorem isAbsolute_of_noSlash
    {path : Path}
    (noSlash : Path.slash ∉ path) :
    path.isAbsolute = false := by
  unfold Path.isAbsolute
  rw [decide_eq_false_iff_not]
  intro starts
  exact noSlash (List.mem_of_head? starts)

theorem pieces_append_slash
    {path : Path}
    (noSlash : Path.slash ∉ path)
    (before : Path) :
    Path.pieces (before ++ Path.slash :: path) = before.pieces ++ [path] := by
  unfold Path.pieces
  rw [List.splitOn_append_cons_self, List.splitOn_eq_singleton noSlash]

theorem linkBase_of_isAbsolute
    {path : Path}
    (absolute : path.isAbsolute = true)
    (here : Place) :
    linkBase here path = [] := by
  unfold linkBase
  rw [absolute]
  rfl

theorem linkBase_of_relative
    {path : Path}
    (relative : path.isAbsolute = false)
    (here : Place) :
    linkBase here path = here := by
  unfold linkBase
  rw [relative]
  rfl

/-- Nothing is dropped from pieces that do not end with a slash. -/
theorem pieces_body
    {name : Name}
    (filled : name ≠ [])
    (front : List Name) :
    ((front ++ [name]).reverse.dropWhile List.isEmpty).reverse = front ++ [name] := by
  have notEmpty : name.isEmpty = false := by
    simpa using filled
  simp [notEmpty]

/-! ## Names as paths -/

theorem IsName.filled {name : Name} (isName : IsName name) : name ≠ [] := by
  rintro rfl
  have idle : Path.isIdle [] = true := rfl
  rw [isName.1] at idle
  contradiction

/-- Holds of the names that lead to an entry of the directory that one is in. -/
structure IsEntryPath (name : Name) : Prop where
  isName : IsName name
  short : name.length ≤ nameLimit
  noZero : (0 : UInt8) ∉ name
  noSlash : Path.slash ∉ name

namespace IsEntryPath

variable {name : Name}

theorem pieces (isEntry : IsEntryPath name) : Path.pieces name = [name] :=
  List.splitOn_eq_singleton isEntry.noSlash

theorem isAbsolute (isEntry : IsEntryPath name) : Path.isAbsolute name = false :=
  isAbsolute_of_noSlash isEntry.noSlash

theorem checkPath (isEntry : IsEntryPath name) : checkPath name = .ok () := by
  have short : ¬pathBound ≤ name.length := by
    have := isEntry.short
    unfold nameLimit at this
    unfold pathBound
    omega
  have noZero : ¬name.contains 0 = true := by
    simpa using isEntry.noZero
  have filled : ¬name.isEmpty = true := by
    simpa using isEntry.isName.filled
  unfold Store.checkPath
  rw [if_neg noZero, if_neg filled, if_neg short]

theorem slot (isEntry : IsEntryPath name) (store : Store) (here : Place) :
    store.slot here name = .ok ⟨here, .named name false⟩ := by
  have body : ([name].reverse.dropWhile List.isEmpty).reverse = [name] :=
    pieces_body isEntry.isName.filled []
  have proper : ¬(Path.isIdle name || decide (name = Path.dotDot)) = true := by
    simp [isEntry.isName.1, isEntry.isName.2]
  have stays : store.reach here name [] true = .ok (.present here .directory) := by
    unfold reach
    rw [linkBase_of_relative isEntry.isAbsolute]
    rfl
  unfold Store.slot
  simp only [isEntry.checkPath, isEntry.pieces, body, bind, Except.bind, pure, Except.pure,
    List.getLast?_singleton, List.dropLast_singleton, stays, if_neg proper,
    if_neg (Nat.not_lt.mpr isEntry.short), List.length_singleton, Nat.lt_irrefl, decide_false]

theorem entryAt (isEntry : IsEntryPath name) (store : Store) (here : Place) :
    EntryAt store here name here name :=
  entryAt_of_slot (isEntry.slot store here)

theorem makeFile
    (isEntry : IsEntryPath name)
    {here : Place}
    (vacant : store.look (name :: here) = none)
    (mode : Nat)
    (data : Bytes) :
    store.makeFile here name mode data = .ok (store.insert (name :: here) (.file mode data)) := by
  unfold Store.makeFile
  simp only [isEntry.slot, bind, Except.bind, pure, Except.pure, vacant, Bool.false_eq_true,
    if_false]

theorem makeFile_eq_ok
    (isEntry : IsEntryPath name)
    {here : Place}
    {mode : Nat}
    {data : Bytes}
    {after : Store}
    (makes : store.makeFile here name mode data = .ok after) :
    store.look (name :: here) = none ∧
      after = store.insert (name :: here) (.file mode data) := by
  unfold Store.makeFile at makes
  simp only [isEntry.slot, bind, Except.bind, pure, Except.pure, Bool.false_eq_true,
    if_false] at makes
  cases vacant : store.look (name :: here) with
  | some node =>
      rw [vacant] at makes
      contradiction
  | none =>
      rw [vacant] at makes
      cases makes
      exact ⟨rfl, rfl⟩

theorem makeLink
    (isEntry : IsEntryPath name)
    {here : Place}
    {target : Path}
    (vacant : store.look (name :: here) = none)
    (valid : Store.checkPath target = .ok ()) :
    store.makeLink here target name = .ok (store.insert (name :: here) (.link target)) := by
  unfold Store.checkPath at valid
  unfold Store.makeLink
  split_ifs at valid with noZero filled short
  simp only [isEntry.slot, bind, Except.bind, pure, Except.pure, vacant, noZero, filled, short,
    Bool.false_eq_true, if_false]

theorem makeLink_eq_ok
    (isEntry : IsEntryPath name)
    {here : Place}
    {target : Path}
    {after : Store}
    (makes : store.makeLink here target name = .ok after) :
    store.look (name :: here) = none ∧ after = store.insert (name :: here) (.link target) := by
  unfold Store.makeLink at makes
  simp only [isEntry.slot, bind, Except.bind, pure, Except.pure, Bool.false_eq_true,
    if_false] at makes
  split_ifs at makes with noZero filled short
  cases vacant : store.look (name :: here) with
  | some node =>
      rw [vacant] at makes
      contradiction
  | none =>
      rw [vacant] at makes
      cases makes
      exact ⟨rfl, rfl⟩

/-- The name of a link leads where its target leads, at the price of one link. -/
theorem locate_link
    (isEntry : IsEntryPath name)
    {here : Place}
    {target : Path}
    (standing : store.look (name :: here) = some (.link target)) :
    store.locate here name true =
      (walk store true (linkLimit - 1) (linkBase here target) target.pieces).mapError .os := by
  have follows : walk store true linkLimit here [name] =
      walk store true (linkLimit - 1) (linkBase here target) target.pieces := by
    show walkWith store true (walk store true (linkLimit - 1)) here [name] = _
    rw [walkWith_name _ _ _ _ isEntry.isName, if_neg (Nat.not_lt.mpr isEntry.short), standing]
    simp
  unfold locate reach
  rw [isEntry.checkPath, isEntry.pieces, linkBase_of_relative isEntry.isAbsolute, follows]
  rfl

/-- A link beside one that is given with a dot in front leads where its target leads, at the price
of one link. -/
theorem locate_through_link
    (isEntry : IsEntryPath name)
    {here : Place}
    {target : Path}
    (standing : store.look (name :: here) = some (.link target))
    (absolute : target.isAbsolute = true)
    (leads : walk store true (linkLimit - 1) [] target.pieces = .ok (.present found held)) :
    store.locate here (Path.dot ++ Path.slash :: name) true = .ok (.present found held) := by
  have pieces : Path.pieces (Path.dot ++ Path.slash :: name) = [Path.dot, name] :=
    pieces_append_slash isEntry.noSlash Path.dot
  have valid : Store.checkPath (Path.dot ++ Path.slash :: name) = .ok () := by
    have noZero : ¬(Path.dot ++ Path.slash :: name).contains 0 = true := by
      simpa [Path.dot, Path.slash] using isEntry.noZero
    have short : ¬pathBound ≤ (Path.dot ++ Path.slash :: name).length := by
      have := isEntry.short
      unfold nameLimit at this
      simp only [Path.dot, List.length_append, List.length_cons, List.length_nil, pathBound]
      omega
    unfold Store.checkPath
    rw [if_neg noZero, if_neg (by simp), if_neg short]
  have base : linkBase here (Path.dot ++ Path.slash :: name) = here := rfl
  have follows : walk store true linkLimit here [Path.dot, name] = .ok (.present found held) := by
    show walkWith store true (walk store true (linkLimit - 1)) here [Path.dot, name] = _
    rw [walkWith_idle _ _ _ _ rfl, walkWith_name _ _ _ _ isEntry.isName,
      if_neg (Nat.not_lt.mpr isEntry.short), standing]
    simp only [List.isEmpty_nil, Bool.not_true, Bool.and_false, Bool.false_eq_true, if_false,
      List.append_nil, linkBase_of_isAbsolute absolute]
    exact leads
  unfold locate reach
  rw [valid, base, pieces, follows]
  rfl

end IsEntryPath

/-! ## Files through a link -/

theorem readText_of_locate
    {here place : Place}
    {path : Path}
    {mode : Nat}
    {data : Bytes}
    (located : store.locate here path true = .ok (.present place (.file mode data))) :
    store.readText here path =
      match Utf8.decode? data with
      | some text => .ok text
      | none => .error .notUtf8 := by
  unfold readText read node
  rw [located]
  rfl

/-- Holds of an absolute path that leads to a file, and does so with one link to spare. -/
structure LeadsToFile (store : Store) (path : Path) (data : Bytes) : Prop where
  absolute : path.isAbsolute = true
  valid : checkPath path = .ok ()
  leads : ∃ place mode,
    walk store true (linkLimit - 1) [] path.pieces = .ok (.present place (.file mode data))

/-- A file is read through a link to it as it is read from anywhere. -/
theorem LeadsToFile.readText_through_link
    {after : Store}
    {path : Path}
    {data : Bytes}
    (toFile : LeadsToFile store path data)
    (keeps : Keeps store after)
    {name : Name}
    (isEntry : IsEntryPath name)
    {work : Place}
    (standing : after.look (name :: work) = some (.link path))
    (here : Place) :
    after.readText work (Path.dot ++ Path.slash :: name) = store.readText here path := by
  obtain ⟨place, mode, leads⟩ := toFile.leads
  have located : store.locate here path true = .ok (.present place (.file mode data)) := by
    have reached : walk store true linkLimit [] path.pieces =
        .ok (.present place (.file mode data)) :=
      walk_succ_of_present leads
    unfold locate reach
    rw [toFile.valid, linkBase_of_isAbsolute toFile.absolute, reached]
    rfl
  have linked := isEntry.locate_through_link standing toFile.absolute
    (keeps _ _ _ _ _ _ leads)
  rw [readText_of_locate located, readText_of_locate linked]

/-! ## A directory that was made -/

theorem pieces_join
    {base path : Path}
    (filled : base ≠ [])
    (noSlash : Path.slash ∉ path) :
    ∃ front, (base.join path).pieces = front ++ [path] := by
  unfold Path.join
  rw [isAbsolute_of_noSlash noSlash, Bool.false_or, if_neg (by simpa using filled)]
  by_cases ends : base.getLast? = some Path.slash
  · rw [if_pos ends, ← List.dropLast_append_getLast? _ ends, List.append_assoc,
      List.singleton_append, pieces_append_slash noSlash]
    exact ⟨_, rfl⟩
  · rw [if_neg ends, pieces_append_slash noSlash]
    exact ⟨_, rfl⟩

/-- The name in the slot of a path is its last piece. -/
theorem eq_of_slot
    {here : Place}
    {path : Path}
    {front : List Name}
    {name : Name}
    (pieces : path.pieces = front ++ [name])
    (filled : name ≠ [])
    {directory : Place}
    {other : Name}
    {slashed : Bool}
    (arrives : store.slot here path = .ok ⟨directory, .named other slashed⟩) :
    other = name ∧ slashed = false := by
  obtain ⟨_, final, _, _, _, slashes⟩ := slot_eq_named arrives
  have body : bodyOf path = path.pieces := by
    unfold bodyOf
    rw [pieces, pieces_body filled]
  rw [body, pieces, List.getLast?_append, List.getLast?_singleton] at final
  rw [body] at slashes
  exact ⟨(Option.some.inj final).symm, by simpa using slashes.symm⟩

/-- A directory that is made at the end of a path, where nothing stood, is what the path leads to
from then on. -/
theorem makeDirectory_eq_ok
    {after : Store}
    {here : Place}
    {path : Path}
    {front : List Name}
    {name : Name}
    (pieces : path.pieces = front ++ [name])
    (filled : name ≠ [])
    (makes : store.makeDirectory here path = .ok after) :
    ∃ above, store.occupied (name :: above) = false ∧
      after = store.insert (name :: above) .directory ∧
      after.locate here path true = .ok (.present (name :: above) .directory) := by
  have grown := makeDirectory_grows makes
  unfold makeDirectory at makes
  obtain ⟨⟨above, tail⟩, arrives, makes⟩ := exists_of_bind_eq_ok makes
  cases tail with
  | root => contradiction
  | dots => contradiction
  | named other slashed =>
      obtain ⟨rfl, rfl⟩ := eq_of_slot pieces filled arrives
      cases taken : store.occupied (other :: above) with
      | true =>
          simp only [taken] at makes
          contradiction
      | false =>
          simp only [taken] at makes
          cases makes
          have entry := (entryAt_of_slot arrives).of_grown grown (by simp)
          have standing := look_insert_self store (List.cons_ne_nil other above) .directory
          exact ⟨above, taken, rfl, entry.locate_of_look standing (by simp) true⟩

end Store

end SealedEnv
