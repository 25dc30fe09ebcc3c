import SealedEnv.Proofs.Store.Trail

/-!
Contract: the names that occur in a store.

Owns:
- `knownNames`, the names of entries and of the pieces of links;
- the law that a way which ends at something has none but known names;
- the law that no trail passes a name that occurs neither in the store nor on the way.

Does not own: how the names of new entries are drawn.
-/

namespace SealedEnv.Store

variable {store : Store} {follow : Bool} {found : Place} {held : Node}

/-! ## Known names -/

/-- The names that occur in a store, as entries or in the targets of links. -/
def knownNames (store : Store) : List Name :=
  store.entries.flatMap fun
    | (place, .link target) => place ++ target.pieces
    | (place, _) => place

theorem mem_knownNames_of_look
    {name : Name}
    {above : Place}
    (standing : store.look (name :: above) = some held) :
    name ∈ store.knownNames := by
  have member : (name :: above, held) ∈ store.entries := mem_of_find standing
  refine List.mem_flatMap.mpr ⟨_, member, ?_⟩
  cases held with
  | link target => exact List.mem_append_left _ List.mem_cons_self
  | _ => exact List.mem_cons_self

theorem pieces_subset_knownNames
    {name : Name}
    {above : Place}
    {target : Path}
    (standing : store.look (name :: above) = some (.link target)) :
    target.pieces ⊆ store.knownNames := by
  have member : (name :: above, .link target) ∈ store.entries := mem_of_find standing
  intro piece inside
  exact List.mem_flatMap.mpr ⟨_, member, by simp [inside]⟩

/-- The names on a way that ends at something are names of entries. -/
theorem mem_knownNames_of_walkWith
    {jump : Place → List Name → Except Errno Found}
    (jumps : ∀ base pieces, jump base pieces = .ok (.present found held) →
      ∀ piece ∈ pieces, IsName piece → piece ∈ store.knownNames)
    {directory : Place}
    {pieces : List Name}
    (leads : walkWith store follow jump directory pieces = .ok (.present found held)) :
    ∀ piece ∈ pieces, IsName piece → piece ∈ store.knownNames := by
  induction pieces generalizing directory with
  | nil => simp
  | cons piece rest inductionHypothesis =>
      rw [List.forall_mem_cons]
      rcases piece_cases piece with idle | rfl | isName
      · rw [walkWith_idle _ _ _ _ idle] at leads
        exact ⟨fun isName => by simp [isName.1] at idle, inductionHypothesis leads⟩
      · rw [walkWith_up] at leads
        exact ⟨fun isName => absurd rfl isName.2, inductionHypothesis leads⟩
      · obtain ⟨-, node, standing, outcome⟩ := walkWith_name_eq_present _ _ _ _ isName leads
        refine ⟨fun _ => mem_knownNames_of_look standing, ?_⟩
        rcases outcome with ⟨-, further⟩ | ⟨target, -, -, further⟩ | ⟨rfl, -, -, -⟩
        · exact inductionHypothesis further
        · intro later member
          exact jumps _ _ further later (List.mem_append_right _ member)
        · simp

theorem mem_knownNames_of_walk
    {links : Nat}
    {directory : Place}
    {pieces : List Name}
    (leads : walk store follow links directory pieces = .ok (.present found held)) :
    ∀ piece ∈ pieces, IsName piece → piece ∈ store.knownNames := by
  induction links generalizing directory pieces with
  | zero => exact mem_knownNames_of_walkWith (fun _ _ fails => by contradiction) leads
  | succ links inductionHypothesis =>
      exact mem_knownNames_of_walkWith (fun _ _ further => inductionHypothesis further) leads

/-! ## Ways past an unknown name -/

theorem not_mem_trailWith
    {name : Name}
    {above : Place}
    (unknown : name ∉ store.knownNames)
    {jump : Place → List Name → List Place}
    (jumps : ∀ base pieces, name ∉ pieces → name :: above ∉ jump base pieces)
    {directory : Place}
    {pieces : List Name}
    (absent : name ∉ pieces) :
    name :: above ∉ trailWith store follow jump directory pieces := by
  induction pieces generalizing directory with
  | nil => simp
  | cons piece rest inductionHypothesis =>
      rw [List.mem_cons, not_or] at absent
      rcases piece_cases piece with idle | rfl | isName
      · rw [trailWith_idle _ _ _ _ idle]
        exact inductionHypothesis absent.2
      · rw [trailWith_up]
        exact inductionHypothesis absent.2
      · rw [trailWith_name _ _ _ _ isName, List.mem_cons, not_or]
        refine ⟨fun same => absent.1 (List.cons.inj same).1, ?_⟩
        cases standing : store.look (piece :: directory) with
        | none => exact inductionHypothesis absent.2
        | some node =>
            cases node with
            | directory => exact inductionHypothesis absent.2
            | link target =>
                simp only []
                split
                · simp
                · apply jumps
                  rw [List.mem_append, not_or]
                  exact ⟨fun inTarget =>
                    unknown (pieces_subset_knownNames standing inTarget), absent.2⟩
            | _ => simp

/-- A name that occurs neither in the pieces nor in the store is on no trail. -/
theorem not_mem_trail
    {name : Name}
    {above : Place}
    (unknown : name ∉ store.knownNames)
    {links : Nat}
    {directory : Place}
    {pieces : List Name}
    (absent : name ∉ pieces) :
    name :: above ∉ trail store follow links directory pieces := by
  induction links generalizing directory pieces with
  | zero => exact not_mem_trailWith unknown (fun _ _ _ => by simp) absent
  | succ links inductionHypothesis =>
      exact not_mem_trailWith unknown (fun _ _ further => inductionHypothesis further) absent

end SealedEnv.Store
