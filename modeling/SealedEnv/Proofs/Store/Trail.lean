import SealedEnv.Store.Walk

/-!
Contract: the places that a path passes, and what may change without moving its end.

Owns:
- `trail`, the places on the way of a path;
- the frame law: where a path leads depends on the places of its trail alone;
- `Grown`, a store to which directories were added away from some places, and what it leaves as it
  was;
- the law that a path is followed piece after piece.

Does not own: which operations make a store grow.
-/

namespace SealedEnv.Store

/-! ## Single pieces -/

/-- Holds of the pieces that name an entry. -/
def IsName (piece : Name) : Prop := Path.isIdle piece = false ∧ piece ≠ Path.dotDot

theorem piece_cases (piece : Name) :
    Path.isIdle piece = true ∨ piece = Path.dotDot ∨ IsName piece := by
  by_cases idle : Path.isIdle piece = true
  · exact .inl idle
  · by_cases up : piece = Path.dotDot
    · exact .inr (.inl up)
    · exact .inr (.inr ⟨by simpa using idle, up⟩)

section Pieces

variable (store : Store) (follow : Bool) (jump : Place → List Name → Except Errno Found)
  (directory : Place)

theorem walkWith_idle
    {piece : Name}
    (idle : Path.isIdle piece = true)
    (rest : List Name) :
    walkWith store follow jump directory (piece :: rest) =
      walkWith store follow jump directory rest := by
  rw [walkWith, if_pos idle]

theorem walkWith_up (rest : List Name) :
    walkWith store follow jump directory (Path.dotDot :: rest) =
      walkWith store follow jump directory.tail rest := by
  rw [walkWith, if_neg (by decide), if_pos rfl]

theorem walkWith_name
    {piece : Name}
    (isName : IsName piece)
    (rest : List Name) :
    walkWith store follow jump directory (piece :: rest) =
      if nameLimit < piece.length then .error .nameTooLong
      else match store.look (piece :: directory) with
        | none =>
          if rest.all List.isEmpty then .ok (.absent directory piece !rest.isEmpty)
          else .error .noEntry
        | some .directory => walkWith store follow jump (piece :: directory) rest
        | some (.link target) =>
          if rest.isEmpty && !follow then .ok (.present (piece :: directory) (.link target))
          else jump (linkBase directory target) (target.pieces ++ rest)
        | some node =>
          if rest.isEmpty then .ok (.present (piece :: directory) node)
          else .error .notDirectory := by
  rw [walkWith, if_neg (by simp [isName.1])]
  exact if_neg isName.2

/-- A way through a name that ends at something goes on from a directory, jumps from a link, or
ends at the name. -/
theorem walkWith_name_eq_present
    {piece : Name}
    (isName : IsName piece)
    {rest : List Name}
    {found : Place}
    {node : Node}
    (leads : walkWith store follow jump directory (piece :: rest) = .ok (.present found node)) :
    piece.length ≤ nameLimit ∧ ∃ held, store.look (piece :: directory) = some held ∧
      ((held = .directory ∧
          walkWith store follow jump (piece :: directory) rest = .ok (.present found node)) ∨
        (∃ target, held = .link target ∧ ¬(rest.isEmpty && !follow) = true ∧
          jump (linkBase directory target) (target.pieces ++ rest) =
            .ok (.present found node)) ∨
        (rest = [] ∧ held = node ∧ node ≠ .directory ∧
          ∀ target, node = .link target → follow = false)) := by
  rw [walkWith_name store follow jump directory isName] at leads
  split at leads
  · contradiction
  · rename_i short
    refine ⟨Nat.le_of_not_lt short, ?_⟩
    cases standing : store.look (piece :: directory) with
    | none =>
        rw [standing] at leads
        simp only [] at leads
        split at leads
        · cases leads
        · contradiction
    | some held =>
        rw [standing] at leads
        refine ⟨held, rfl, ?_⟩
        cases held with
        | directory => exact .inl ⟨rfl, leads⟩
        | link target =>
            by_cases stops : (rest.isEmpty && !follow) = true
            · simp only [if_pos stops] at leads
              cases leads
              simp only [Bool.and_eq_true, List.isEmpty_iff, Bool.not_eq_true'] at stops
              exact .inr (.inr ⟨stops.1, rfl, by simp, fun _ _ => stops.2⟩)
            · simp only [if_neg stops] at leads
              exact .inr (.inl ⟨target, rfl, stops, leads⟩)
        | _ =>
            simp only [] at leads
            split at leads
            · rename_i ends
              cases leads
              exact .inr (.inr ⟨List.isEmpty_iff.mp ends, rfl, by simp, by simp⟩)
            · contradiction

end Pieces

/-! ## Trails -/

/-- The places that pieces lead through from a directory, the last one included.  What is missing
counts as a directory, for it may become one.  A link in the middle of the way, or at its end if
`follow` holds, is left to `jump`, with the pieces that remain. -/
def trailWith
    (store : Store)
    (follow : Bool)
    (jump : Place → List Name → List Place) :
    Place → List Name → List Place
  | _, [] => []
  | directory, piece :: rest =>
    if Path.isIdle piece then trailWith store follow jump directory rest
    else if piece = Path.dotDot then trailWith store follow jump directory.tail rest
    else
      (piece :: directory) :: match store.look (piece :: directory) with
        | none | some .directory => trailWith store follow jump (piece :: directory) rest
        | some (.link target) =>
          if rest.isEmpty && !follow then []
          else jump (linkBase directory target) (target.pieces ++ rest)
        | some _ => []

/-- The places that pieces lead through from a directory, through at most `links` links. -/
def trail (store : Store) (follow : Bool) : Nat → Place → List Name → List Place
  | 0 => trailWith store follow fun _ _ => []
  | links + 1 => trailWith store follow (trail store follow links)

section Pieces

variable (store : Store) (follow : Bool) (jump : Place → List Name → List Place)
  (directory : Place)

@[simp] theorem trailWith_nil : trailWith store follow jump directory [] = [] := rfl

theorem trailWith_idle
    {piece : Name}
    (idle : Path.isIdle piece = true)
    (rest : List Name) :
    trailWith store follow jump directory (piece :: rest) =
      trailWith store follow jump directory rest := by
  rw [trailWith, if_pos idle]

theorem trailWith_up (rest : List Name) :
    trailWith store follow jump directory (Path.dotDot :: rest) =
      trailWith store follow jump directory.tail rest := by
  rw [trailWith, if_neg (by decide), if_pos rfl]

theorem trailWith_name
    {piece : Name}
    (isName : IsName piece)
    (rest : List Name) :
    trailWith store follow jump directory (piece :: rest) =
      (piece :: directory) :: match store.look (piece :: directory) with
        | none | some .directory => trailWith store follow jump (piece :: directory) rest
        | some (.link target) =>
          if rest.isEmpty && !follow then []
          else jump (linkBase directory target) (target.pieces ++ rest)
        | some _ => [] := by
  rw [trailWith, if_neg (by simp [isName.1]), if_neg isName.2]

end Pieces

/-! ## The frame law -/

section Frame

variable {store after : Store} {follow : Bool}

theorem walkWith_congr
    {jump otherJump : Place → List Name → Except Errno Found}
    {paths : Place → List Name → List Place}
    (jumps : ∀ base pieces, (∀ place ∈ paths base pieces, after.look place = store.look place) →
      otherJump base pieces = jump base pieces)
    {directory : Place}
    {pieces : List Name}
    (same : ∀ place ∈ trailWith store follow paths directory pieces,
      after.look place = store.look place) :
    walkWith after follow otherJump directory pieces =
      walkWith store follow jump directory pieces := by
  induction pieces generalizing directory with
  | nil => rfl
  | cons piece rest inductionHypothesis =>
      rcases piece_cases piece with idle | rfl | isName
      · rw [trailWith_idle _ _ _ _ idle] at same
        rw [walkWith_idle _ _ _ _ idle, walkWith_idle _ _ _ _ idle, inductionHypothesis same]
      · rw [trailWith_up] at same
        rw [walkWith_up, walkWith_up, inductionHypothesis same]
      · rw [trailWith_name _ _ _ _ isName] at same
        rw [walkWith_name _ _ _ _ isName, walkWith_name _ _ _ _ isName,
          same (piece :: directory) (by simp)]
        congr 1
        have further : ∀ place ∈ _, after.look place = store.look place :=
          fun place member => same place (List.mem_cons_of_mem _ member)
        cases standing : store.look (piece :: directory) with
        | none => rfl
        | some node =>
            rw [standing] at further
            cases node with
            | directory => exact inductionHypothesis further
            | link target =>
                by_cases stops : (rest.isEmpty && !follow) = true
                · simp only [if_pos stops]
                · simp only [if_neg stops] at further ⊢
                  exact jumps _ _ further
            | _ => rfl

/-- Where pieces lead depends on the places of their trail alone. -/
theorem walk_congr
    {links : Nat}
    {directory : Place}
    {pieces : List Name}
    (same : ∀ place ∈ trail store follow links directory pieces,
      after.look place = store.look place) :
    walk after follow links directory pieces = walk store follow links directory pieces := by
  induction links generalizing directory pieces with
  | zero => exact walkWith_congr (fun _ _ _ => rfl) same
  | succ links inductionHypothesis =>
      exact walkWith_congr (fun _ _ further => inductionHypothesis further) same

/-! ## Growth -/

/-- Holds if a store is another one with more directories, apart from what happened at the places
that were touched. -/
def Grown (touched : List Place) (store after : Store) : Prop :=
  ∀ place, place ∉ touched → after.look place = store.look place ∨
    (store.look place = none ∧ after.look place = some .directory)

theorem Grown.refl (touched : List Place) (store : Store) : Grown touched store store :=
  fun _ _ => .inl rfl

theorem Grown.trans
    {touched : List Place}
    {last : Store}
    (first : Grown touched store after)
    (second : Grown touched after last) :
    Grown touched store last := by
  intro place apart
  rcases first place apart with same | ⟨free, made⟩
  · rcases second place apart with sameAgain | ⟨stillFree, made⟩
    · exact .inl (sameAgain.trans same)
    · exact .inr ⟨same.symm.trans stillFree, made⟩
  · rcases second place apart with sameAgain | ⟨stillFree, _⟩
    · exact .inr ⟨free, sameAgain.trans made⟩
    · rw [made] at stillFree
      contradiction

theorem Grown.mono
    {touched more : List Place}
    (wider : touched ⊆ more)
    (grown : Grown touched store after) :
    Grown more store after :=
  fun place apart => grown place fun member => apart (wider member)

theorem trailWith_of_grown
    {touched : List Place}
    (grown : Grown touched store after)
    {jump otherJump : Place → List Name → List Place}
    (jumps : ∀ base pieces, (∀ place ∈ jump base pieces, place ∉ touched) →
      otherJump base pieces = jump base pieces)
    {directory : Place}
    {pieces : List Name}
    (apart : ∀ place ∈ trailWith store follow jump directory pieces, place ∉ touched) :
    trailWith after follow otherJump directory pieces =
      trailWith store follow jump directory pieces := by
  induction pieces generalizing directory with
  | nil => rfl
  | cons piece rest inductionHypothesis =>
      rcases piece_cases piece with idle | rfl | isName
      · rw [trailWith_idle _ _ _ _ idle] at apart
        rw [trailWith_idle _ _ _ _ idle, trailWith_idle _ _ _ _ idle, inductionHypothesis apart]
      · rw [trailWith_up] at apart
        rw [trailWith_up, trailWith_up, inductionHypothesis apart]
      · rw [trailWith_name _ _ _ _ isName] at apart
        rw [trailWith_name _ _ _ _ isName, trailWith_name _ _ _ _ isName]
        congr 1
        have further : ∀ place ∈ _, place ∉ touched :=
          fun place member => apart place (List.mem_cons_of_mem _ member)
        rcases grown _ (apart (piece :: directory) (by simp)) with unchanged | ⟨free, made⟩
        · rw [unchanged]
          cases standing : store.look (piece :: directory) with
          | none =>
              rw [standing] at further
              exact inductionHypothesis further
          | some node =>
              rw [standing] at further
              cases node with
              | directory => exact inductionHypothesis further
              | link target =>
                  by_cases stops : (rest.isEmpty && !follow) = true
                  · simp only [if_pos stops]
                  · simp only [if_neg stops] at further ⊢
                    exact jumps _ _ further
              | _ => rfl
        · rw [free] at further ⊢
          rw [made]
          exact inductionHypothesis further

/-- Growth away from a trail leaves it as it was: a directory that is made was counted as one. -/
theorem trail_of_grown
    {touched : List Place}
    (grown : Grown touched store after)
    {links : Nat}
    {directory : Place}
    {pieces : List Name}
    (apart : ∀ place ∈ trail store follow links directory pieces, place ∉ touched) :
    trail after follow links directory pieces = trail store follow links directory pieces := by
  induction links generalizing directory pieces with
  | zero => exact trailWith_of_grown grown (fun _ _ _ => rfl) apart
  | succ links inductionHypothesis =>
      exact trailWith_of_grown grown (fun _ _ further => inductionHypothesis further) apart

/-- On the way to something stand directories and links, except at its end. -/
theorem trailWith_held
    {found : Place}
    {node : Node}
    {jump : Place → List Name → Except Errno Found}
    {paths : Place → List Name → List Place}
    (jumps : ∀ base pieces, jump base pieces = .ok (.present found node) →
      ∀ place ∈ paths base pieces, ∃ held, store.look place = some held ∧
        (held = .directory ∨ (∃ target, held = .link target) ∨ place = found ∧ held = node))
    {directory : Place}
    {pieces : List Name}
    (leads : walkWith store follow jump directory pieces = .ok (.present found node)) :
    ∀ place ∈ trailWith store follow paths directory pieces,
      ∃ held, store.look place = some held ∧
        (held = .directory ∨ (∃ target, held = .link target) ∨ place = found ∧ held = node) := by
  induction pieces generalizing directory with
  | nil => simp
  | cons piece rest inductionHypothesis =>
      rcases piece_cases piece with idle | rfl | isName
      · rw [walkWith_idle _ _ _ _ idle] at leads
        rw [trailWith_idle _ _ _ _ idle]
        exact inductionHypothesis leads
      · rw [walkWith_up] at leads
        rw [trailWith_up]
        exact inductionHypothesis leads
      · have whole := leads
        obtain ⟨short, held, standing, outcome⟩ := walkWith_name_eq_present _ _ _ _ isName leads
        rw [trailWith_name _ _ _ _ isName, standing]
        intro place member
        rcases List.mem_cons.mp member with rfl | further
        · refine ⟨held, standing, ?_⟩
          rcases outcome with ⟨isDirectory, -⟩ | ⟨target, isLink, -, -⟩ | ⟨rfl, rfl, -, atLink⟩
          · exact .inl isDirectory
          · exact .inr (.inl ⟨target, isLink⟩)
          · cases held with
            | directory => exact .inl rfl
            | link target => exact .inr (.inl ⟨target, rfl⟩)
            | _ =>
                rw [walkWith_name _ _ _ _ isName, if_neg (Nat.not_lt.mpr short), standing] at whole
                cases whole
                exact .inr (.inr ⟨rfl, rfl⟩)
        · rcases outcome with ⟨rfl, leads⟩ | ⟨target, rfl, goesOn, leads⟩ | ⟨rfl, rfl, _, atLink⟩
          · exact inductionHypothesis leads place further
          · simp only [if_neg goesOn] at further
            exact jumps _ _ leads place further
          · cases held with
            | link target => simp [atLink target rfl] at further
            | _ => simp at further

theorem trail_held
    {found : Place}
    {node : Node}
    {links : Nat}
    {directory : Place}
    {pieces : List Name}
    (leads : walk store follow links directory pieces = .ok (.present found node)) :
    ∀ place ∈ trail store follow links directory pieces, ∃ held, store.look place = some held ∧
      (held = .directory ∨ (∃ target, held = .link target) ∨ place = found ∧ held = node) := by
  induction links generalizing directory pieces with
  | zero => exact trailWith_held (fun _ _ fails => by contradiction) leads
  | succ links inductionHypothesis =>
      exact trailWith_held (fun _ _ further => inductionHypothesis further) leads

theorem trail_standing
    {found : Place}
    {node : Node}
    {links : Nat}
    {directory : Place}
    {pieces : List Name}
    (leads : walk store follow links directory pieces = .ok (.present found node)) :
    ∀ place ∈ trail store follow links directory pieces, store.look place ≠ none := by
  intro place member
  obtain ⟨held, standing, -⟩ := trail_held leads place member
  rw [standing]
  exact Option.some_ne_none held

/-- Growth away from a trail leaves its end as it was if something stands there. -/
theorem walk_of_grown
    {touched : List Place}
    (grown : Grown touched store after)
    {found : Place}
    {node : Node}
    {links : Nat}
    {directory : Place}
    {pieces : List Name}
    (apart : ∀ place ∈ trail store follow links directory pieces, place ∉ touched)
    (leads : walk store follow links directory pieces = .ok (.present found node)) :
    walk after follow links directory pieces = .ok (.present found node) := by
  rw [walk_congr, leads]
  intro place member
  rcases grown place (apart place member) with same | ⟨free, _⟩
  · exact same
  · exact absurd free (trail_standing leads place member)

end Frame

/-! ## Piece after piece -/

section Append

variable {store : Store}

theorem trailWith_mono
    {follow more : Bool}
    {rest : List Name}
    (further : follow = true → rest = [] → more = true)
    {jump otherJump : Place → List Name → List Place}
    (jumps : ∀ base pieces, jump base pieces <+: otherJump base (pieces ++ rest))
    (directory : Place)
    (front : List Name) :
    trailWith store follow jump directory front <+:
      trailWith store more otherJump directory (front ++ rest) := by
  induction front generalizing directory with
  | nil => exact List.nil_prefix
  | cons piece front inductionHypothesis =>
      rw [List.cons_append]
      rcases piece_cases piece with idle | rfl | isName
      · rw [trailWith_idle _ _ _ _ idle, trailWith_idle _ _ _ _ idle]
        exact inductionHypothesis directory
      · rw [trailWith_up, trailWith_up]
        exact inductionHypothesis directory.tail
      · rw [trailWith_name _ _ _ _ isName, trailWith_name _ _ _ _ isName, List.cons_prefix_cons]
        refine ⟨rfl, ?_⟩
        cases store.look (piece :: directory) with
        | none => exact inductionHypothesis _
        | some node =>
            cases node with
            | directory => exact inductionHypothesis _
            | link target =>
                simp only []
                by_cases stops : (front.isEmpty && !follow) = true
                · rw [if_pos stops]
                  exact List.nil_prefix
                · have goesOn : ¬((front ++ rest).isEmpty && !more) = true := by
                    intro bothStop
                    simp only [Bool.and_eq_true, List.isEmpty_iff, List.append_eq_nil_iff,
                      Bool.not_eq_true'] at bothStop stops
                    have follows : follow = true := by
                      cases follow with
                      | true => rfl
                      | false => exact absurd ⟨bothStop.1.1, rfl⟩ stops
                    rw [further follows bothStop.1.2] at bothStop
                    simp at bothStop
                  rw [if_neg stops, if_neg goesOn, ← List.append_assoc]
                  exact jumps _ _
            | _ => exact List.nil_prefix

/-- The trail of more pieces starts with that of the first ones, and a last link that is followed
only adds to it. -/
theorem trail_mono
    {follow more : Bool}
    {rest : List Name}
    (further : follow = true → rest = [] → more = true)
    (links : Nat)
    (directory : Place)
    (front : List Name) :
    trail store follow links directory front <+:
      trail store more links directory (front ++ rest) := by
  induction links generalizing directory front with
  | zero => exact trailWith_mono further (fun _ _ => List.nil_prefix) directory front
  | succ links inductionHypothesis =>
      exact trailWith_mono further inductionHypothesis directory front

/-- Holds if pieces lead from `base` to a directory through which more pieces are followed as from
the directory itself. -/
def LeadsThrough
    (store : Store)
    (walks : Bool → Place → List Name → Except Errno Found)
    (paths : Bool → Place → List Name → List Place)
    (base : Place)
    (front : List Name)
    (directory : Place) : Prop :=
  ∃ left, ∀ follow rest, rest ≠ [] →
    walks follow base (front ++ rest) = walk store follow left directory rest ∧
      paths follow base (front ++ rest) =
        paths true base front ++ trail store follow left directory rest

theorem walkWith_append
    {jump : Bool → Place → List Name → Except Errno Found}
    {paths : Bool → Place → List Name → List Place}
    {links : Nat}
    (level : ∀ follow, walk store follow links = walkWith store follow (jump follow))
    (pathLevel : ∀ follow, trail store follow links = trailWith store follow (paths follow))
    {found : Place}
    (jumps : ∀ base pieces, jump true base pieces = .ok (.present found .directory) →
      LeadsThrough store jump paths base pieces found)
    {directory : Place}
    {front : List Name}
    (leads : walk store true links directory front = .ok (.present found .directory)) :
    LeadsThrough store (walk store · links) (trail store · links) directory front found := by
  -- The links that `front` passes through are no longer left to the pieces after it.
  unfold LeadsThrough
  simp only [level, pathLevel] at leads ⊢
  induction front generalizing directory with
  | nil =>
      cases leads
      refine ⟨links, fun follow rest _ => ?_⟩
      rw [level, pathLevel]
      exact ⟨rfl, rfl⟩
  | cons piece front inductionHypothesis =>
      rcases piece_cases piece with idle | rfl | isName
      · rw [walkWith_idle _ _ _ _ idle] at leads
        obtain ⟨left, follows⟩ := inductionHypothesis leads
        refine ⟨left, fun follow rest filled => ?_⟩
        rw [List.cons_append, walkWith_idle _ _ _ _ idle, trailWith_idle _ _ _ _ idle,
          trailWith_idle _ _ _ _ idle]
        exact follows follow rest filled
      · rw [walkWith_up] at leads
        obtain ⟨left, follows⟩ := inductionHypothesis leads
        refine ⟨left, fun follow rest filled => ?_⟩
        rw [List.cons_append, walkWith_up, trailWith_up, trailWith_up]
        exact follows follow rest filled
      · obtain ⟨short, held, standing, outcome⟩ := walkWith_name_eq_present _ _ _ _ isName leads
        rcases outcome with ⟨rfl, leads⟩ | ⟨target, rfl, _, leads⟩ | ⟨_, _, other, _⟩
        · obtain ⟨left, follows⟩ := inductionHypothesis leads
          refine ⟨left, fun follow rest filled => ?_⟩
          rw [List.cons_append, walkWith_name _ _ _ _ isName, trailWith_name _ _ _ _ isName,
            trailWith_name _ _ _ _ isName, if_neg (Nat.not_lt.mpr short), standing]
          simp only [follows follow rest filled, List.cons_append, and_self]
        · obtain ⟨left, follows⟩ := jumps _ _ leads
          refine ⟨left, fun follow rest filled => ?_⟩
          have goesOn : ¬((front ++ rest).isEmpty && !follow) = true := by
            simp [filled]
          rw [List.cons_append, walkWith_name _ _ _ _ isName, trailWith_name _ _ _ _ isName,
            trailWith_name _ _ _ _ isName, if_neg (Nat.not_lt.mpr short), standing]
          simp only [if_neg goesOn, ← List.append_assoc, follows follow rest filled]
          simp
        · contradiction

/-- Pieces that lead to a directory are followed by more pieces as these are from the directory. -/
theorem walk_append
    {links : Nat}
    {directory found : Place}
    {front : List Name}
    (leads : walk store true links directory front = .ok (.present found .directory)) :
    ∃ left, ∀ follow rest, rest ≠ [] →
      walk store follow links directory (front ++ rest) = walk store follow left found rest ∧
        trail store follow links directory (front ++ rest) =
          trail store true links directory front ++ trail store follow left found rest := by
  suffices through :
      LeadsThrough store (walk store · links) (trail store · links) directory front found from
    through
  induction links generalizing directory front with
  | zero =>
      exact walkWith_append (fun _ => rfl) (fun _ => rfl) (fun _ _ fails => by contradiction) leads
  | succ links inductionHypothesis =>
      exact walkWith_append (fun _ => rfl) (fun _ => rfl)
        (fun _ _ further => inductionHypothesis further) leads

end Append

end SealedEnv.Store
