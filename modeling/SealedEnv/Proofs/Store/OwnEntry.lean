import SealedEnv.Proofs.Store.Folder
import SealedEnv.Proofs.Store.Replacement

/-!
Contract: a path that reads a file does not pass its own entry before its end.

Owns:
- the places on the way to a directory, which are directories and links to directories;
- `ownAhead_of_readText`, and what is read after a change beside the trail of a path.

Does not own: how the file came there.
-/

namespace SealedEnv.Store

variable {store after : Store} {found : Place}

/-! ## Ways to directories -/

theorem walk_le_of_present
    {follow : Bool}
    {held : Node}
    {links more : Nat}
    (atLeast : links ≤ more)
    {directory : Place}
    {pieces : List Name}
    (leads : walk store follow links directory pieces = .ok (.present found held)) :
    walk store follow more directory pieces = .ok (.present found held) := by
  obtain ⟨extra, rfl⟩ := Nat.exists_eq_add_of_le atLeast
  induction extra with
  | zero => exact leads
  | succ extra inductionHypothesis =>
      exact walk_succ_of_present (inductionHypothesis (Nat.le_add_right links extra))

theorem exists_walkWith_prefix
    {follow : Bool}
    {held : Node}
    {rest : List Name}
    (ends : rest = [] → held = .directory)
    {jump otherJump : Place → List Name → Except Errno Found}
    (jumps : ∀ base pieces, jump base (pieces ++ rest) = .ok (.present found held) →
      ∃ place, otherJump base pieces = .ok (.present place .directory))
    {directory : Place}
    {front : List Name}
    (leads : walkWith store follow jump directory (front ++ rest) = .ok (.present found held)) :
    ∃ place, walkWith store true otherJump directory front = .ok (.present place .directory) := by
  induction front generalizing directory with
  | nil => exact ⟨directory, rfl⟩
  | cons piece front inductionHypothesis =>
      rw [List.cons_append] at leads
      rcases piece_cases piece with idle | rfl | isName
      · rw [walkWith_idle _ _ _ _ idle] at leads ⊢
        exact inductionHypothesis leads
      · rw [walkWith_up] at leads ⊢
        exact inductionHypothesis leads
      · obtain ⟨short, there, standing, outcome⟩ := walkWith_name_eq_present _ _ _ _ isName leads
        rw [walkWith_name _ _ _ _ isName, if_neg (Nat.not_lt.mpr short), standing]
        rcases outcome with ⟨rfl, further⟩ | ⟨target, rfl, -, further⟩ | ⟨empty, -, other, -⟩
        · exact inductionHypothesis further
        · rw [← List.append_assoc] at further
          simpa using jumps _ _ further
        · exact absurd (ends (List.append_eq_nil_iff.mp empty).2) other

/-- The first pieces of a way lead to a directory, if more pieces follow them or the way itself
ends at one. -/
theorem exists_walk_prefix
    {follow : Bool}
    {held : Node}
    {links : Nat}
    {rest : List Name}
    (ends : rest = [] → held = .directory)
    {directory : Place}
    {front : List Name}
    (leads : walk store follow links directory (front ++ rest) = .ok (.present found held)) :
    ∃ place, walk store true links directory front = .ok (.present place .directory) := by
  induction links generalizing directory front with
  | zero => exact exists_walkWith_prefix ends (fun _ _ fails => by contradiction) leads
  | succ links inductionHypothesis =>
      refine exists_walkWith_prefix ends ?_ leads
      intro base pieces further
      exact inductionHypothesis further

/-- Holds of a place where a directory stands, or a link that leads to one. -/
def Enters (store : Store) (place : Place) : Prop :=
  store.look place = some .directory ∨
    ∃ target links reached, store.look place = some (.link target) ∧
      walk store true links (linkBase place.tail target) target.pieces =
        .ok (.present reached .directory)

theorem enters_of_mem_trailWith
    {jump : Place → List Name → Except Errno Found}
    {paths : Place → List Name → List Place}
    (arrives : ∀ base pieces rest, jump base (pieces ++ rest) = .ok (.present found .directory) →
      ∃ links reached, walk store true links base pieces = .ok (.present reached .directory))
    (jumps : ∀ base pieces, jump base pieces = .ok (.present found .directory) →
      ∀ place ∈ paths base pieces, Enters store place)
    {directory : Place}
    {pieces : List Name}
    (leads : walkWith store true jump directory pieces = .ok (.present found .directory)) :
    ∀ place ∈ trailWith store true paths directory pieces, Enters store place := by
  induction pieces generalizing directory with
  | nil => simp
  | cons piece rest inductionHypothesis =>
      rcases piece_cases piece with idle | rfl | isName
      · rw [walkWith_idle _ _ _ _ idle] at leads
        rw [trailWith_idle _ _ _ _ idle]
        exact inductionHypothesis leads
      · rw [walkWith_up] at leads
        rw [trailWith_up]
        exact inductionHypothesis leads
      · obtain ⟨-, held, standing, outcome⟩ := walkWith_name_eq_present _ _ _ _ isName leads
        rw [trailWith_name _ _ _ _ isName, standing]
        intro place member
        rcases outcome with ⟨rfl, further⟩ | ⟨target, rfl, goesOn, further⟩ | ⟨-, -, other, -⟩
        · rcases List.mem_cons.mp member with rfl | inside
          · exact .inl standing
          · exact inductionHypothesis further place inside
        · simp only [if_neg goesOn] at member
          rcases List.mem_cons.mp member with rfl | inside
          · obtain ⟨links, reached, toTarget⟩ := arrives _ _ _ further
            exact .inr ⟨target, links, reached, standing, toTarget⟩
          · exact jumps _ _ further place inside
        · contradiction

/-- Every place on the way to a directory is entered. -/
theorem enters_of_mem_trail
    {links : Nat}
    {directory : Place}
    {pieces : List Name}
    (leads : walk store true links directory pieces = .ok (.present found .directory)) :
    ∀ place ∈ trail store true links directory pieces, Enters store place := by
  induction links generalizing directory pieces with
  | zero =>
      exact enters_of_mem_trailWith (fun _ _ _ fails => by contradiction)
        (fun _ _ fails => by contradiction) leads
  | succ links inductionHypothesis =>
      refine enters_of_mem_trailWith ?_ (fun _ _ further => inductionHypothesis further) leads
      intro base pieces rest further
      obtain ⟨reached, toPieces⟩ := exists_walk_prefix (fun _ => rfl) further
      exact ⟨links, reached, toPieces⟩

/-- However many links may be followed, pieces lead to one end. -/
theorem present_unique
    {follow : Bool}
    {other : Place}
    {held standing : Node}
    {links more : Nat}
    {directory : Place}
    {pieces : List Name}
    (leads : walk store follow links directory pieces = .ok (.present found held))
    (leadsToo : walk store follow more directory pieces = .ok (.present other standing)) :
    held = standing := by
  have first := walk_le_of_present (Nat.le_max_left links more) leads
  have second := walk_le_of_present (Nat.le_max_right links more) leadsToo
  rw [first] at second
  cases second
  rfl

theorem not_enters_of_walkWith
    {jump : Place → List Name → Except Errno Found}
    {held : Node}
    (isWalk : ∀ base pieces, jump base pieces = .ok (.present found held) →
      ∃ links, walk store true links base pieces = .ok (.present found held))
    {directory : Place}
    {name : Name}
    (isName : IsName name)
    (leads : walkWith store true jump directory [name] = .ok (.present found held))
    (noDirectory : held ≠ .directory) :
    ¬Enters store (name :: directory) := by
  obtain ⟨-, standing, isStanding, outcome⟩ := walkWith_name_eq_present _ _ _ _ isName leads
  rintro (isDirectory | ⟨target, links, reached, isLink, toDirectory⟩)
  · rw [isDirectory] at isStanding
    cases isStanding
    rcases outcome with ⟨-, ends⟩ | ⟨_, isLink, -, -⟩ | ⟨-, isHeld, -, -⟩
    · cases ends
      exact noDirectory rfl
    · contradiction
    · exact noDirectory isHeld.symm
  · rw [isLink] at isStanding
    cases isStanding
    rcases outcome with ⟨isDirectory, -⟩ | ⟨_, same, -, further⟩ | ⟨-, isHeld, -, follows⟩
    · contradiction
    · cases same
      obtain ⟨more, toHeld⟩ := isWalk _ _ further
      rw [List.append_nil] at toHeld
      exact noDirectory (present_unique toHeld toDirectory)
    · have ends := follows target isHeld.symm
      contradiction

/-! ## Files that are read -/

section Reading

variable {here : Place} {path : Path} {text : String}

/-- A path that is read leads to something that is no directory. -/
theorem exists_locate_of_read
    {data : Bytes}
    (reads : store.read here path = .ok data) :
    ∃ place held, held ≠ .directory ∧ store.locate here path true = .ok (.present place held) := by
  unfold read at reads
  obtain ⟨held, isNode, readable⟩ := exists_of_bind_eq_ok reads
  unfold node at isNode
  obtain ⟨reached, located, isHeld⟩ := exists_of_bind_eq_ok isNode
  cases reached with
  | absent directory name slashed => contradiction
  | present place standing =>
      cases isHeld
      refine ⟨place, held, ?_, located⟩
      rintro rfl
      contradiction

theorem exists_walk_of_readText (reads : store.readText here path = .ok text) :
    ∃ place held, held ≠ .directory ∧
      store.walk true linkLimit (linkBase here path) path.pieces = .ok (.present place held) := by
  unfold readText at reads
  obtain ⟨data, isRead, -⟩ := exists_of_bind_eq_ok reads
  obtain ⟨place, held, noDirectory, located⟩ := exists_locate_of_read isRead
  exact ⟨place, held, noDirectory, walk_of_locate located⟩

/-- A path that reads a text does not pass its entry before its end: the entry would have to lead to
a directory there, and at the end to a file. -/
theorem EntryAt.ahead_of_readText
    {directory : Place}
    {name : Name}
    (entry : EntryAt store here path directory name)
    (reads : store.readText here path = .ok text) :
    name :: directory ∉ store.way here path := by
  obtain ⟨place, held, noDirectory, arrives⟩ := exists_walk_of_readText reads
  obtain ⟨left, follows⟩ := walk_append entry.leads
  rw [entry.last, (follows true [name] (by simp)).1] at arrives
  intro onWay
  have enters := enters_of_mem_trail entry.leads (name :: directory) onWay
  cases left with
  | zero =>
      exact not_enters_of_walkWith (fun _ _ fails => by contradiction) entry.isName arrives
        noDirectory enters
  | succ left =>
      exact not_enters_of_walkWith (fun _ _ further => ⟨left, further⟩) entry.isName arrives
        noDirectory enters

/-- What is read does not change with what is off the trail. -/
theorem readText_of_grown
    {touched : List Place}
    (grown : Grown touched store after)
    (apart : ∀ place ∈ store.trailOf here path true, place ∉ touched)
    (reads : store.readText here path = .ok text) :
    after.readText here path = .ok text := by
  obtain ⟨place, held, -, arrives⟩ := exists_walk_of_readText reads
  rw [readText_congr, reads]
  intro passed onTrail
  rcases grown passed (apart passed onTrail) with same | ⟨vacant, -⟩
  · exact same
  · exact absurd vacant (trail_standing arrives passed onTrail)

/-- A path whose entry is a file passes nothing after it. -/
theorem EntryAt.trailOf_of_file
    {directory : Place}
    {name : Name}
    (entry : EntryAt store here path directory name)
    {mode : Nat}
    {data : Bytes}
    (isFile : store.look (name :: directory) = some (.file mode data)) :
    store.trailOf here path true = store.way here path ++ [name :: directory] := by
  obtain ⟨left, follows⟩ := walk_append entry.leads
  have alone : ∀ links, store.trail true links directory [name] = [name :: directory] := by
    intro links
    cases links with
    | zero => rw [trail, trailWith_name _ _ _ _ entry.isName, isFile]
    | succ links => rw [trail, trailWith_name _ _ _ _ entry.isName, isFile]
  unfold trailOf way
  conv => lhs; rw [entry.last]
  rw [(follows true [name] (by simp)).2, alone]

end Reading

end SealedEnv.Store
