import SealedEnv.Store.World

/-!
Contract: what actions do in a world, one equation for each way to put them together.

Owns:
- sequences and handlers, from the outcome of their first part;
- the outcomes of the single actions on a store.

Does not own: what a particular action is made of.
-/

namespace SealedEnv

theorem mapError_eq_ok
    {inner outer value : Type}
    {context : inner → outer}
    {result : Except inner value}
    {found : value}
    (succeeds : result.mapError context = .ok found) :
    result = .ok found := by
  cases result with
  | error cause => contradiction
  | ok held =>
      cases succeeds
      rfl

/-- A sequence that succeeds does so from the success of its first part. -/
theorem exists_of_bind_eq_ok
    {cause value other : Type}
    {result : Except cause value}
    {next : value → Except cause other}
    {found : other}
    (succeeds : (result >>= next) = .ok found) :
    ∃ held, result = .ok held ∧ next held = .ok found := by
  cases result with
  | error fault => contradiction
  | ok held => exact ⟨held, rfl, succeeds⟩

namespace Action

variable {cause value other : Type}

/-! ## Sequences -/

theorem get_apply (world : World) : (get : Action cause World) world = (.ok world, world) := rfl

theorem bind_of_ok
    {action : Action cause value}
    {world after : World}
    {result : value}
    (succeeds : action world = (.ok result, after))
    (next : value → Action cause other) :
    (action >>= next) world = next result after := by
  simp only [bind, ExceptT.bind, ExceptT.mk, StateT.bind, succeeds]
  rfl

theorem bind_of_error
    {action : Action cause value}
    {world after : World}
    {fault : cause}
    (fails : action world = (.error fault, after))
    (next : value → Action cause other) :
    (action >>= next) world = (.error fault, after) := by
  simp only [bind, ExceptT.bind, ExceptT.mk, StateT.bind, fails]
  rfl

theorem bind_eq_ok_iff
    {action : Action cause value}
    {next : value → Action cause other}
    {world after : World}
    {result : other} :
    (action >>= next) world = (.ok result, after) ↔
      ∃ first between, action world = (.ok first, between) ∧
        next first between = (.ok result, after) := by
  constructor
  · intro succeeds
    rcases outcome : action world with ⟨fault | first, between⟩
    · rw [bind_of_error outcome] at succeeds
      cases succeeds
    · rw [bind_of_ok outcome] at succeeds
      exact ⟨first, between, rfl, succeeds⟩
  · rintro ⟨first, between, outcome, succeeds⟩
    rw [bind_of_ok outcome, succeeds]

theorem tryCatch_of_ok
    {action : Action cause value}
    {world after : World}
    {result : value}
    (succeeds : action world = (.ok result, after))
    (handler : cause → Action cause value) :
    (tryCatch action handler) world = (.ok result, after) := by
  simp only [tryCatch, tryCatchThe, MonadExceptOf.tryCatch, ExceptT.tryCatch, ExceptT.mk, bind,
    StateT.bind, succeeds]
  rfl

theorem tryCatch_of_error
    {action : Action cause value}
    {world after : World}
    {fault : cause}
    (fails : action world = (.error fault, after))
    (handler : cause → Action cause value) :
    (tryCatch action handler) world = handler fault after := by
  simp only [tryCatch, tryCatchThe, MonadExceptOf.tryCatch, ExceptT.tryCatch, ExceptT.mk, bind,
    StateT.bind, fails]

/-- A handler of a sequence whose first part succeeds is one of the rest. -/
theorem tryCatch_bind_of_ok
    {action : Action cause value}
    {next : value → Action cause other}
    {world after : World}
    {result : value}
    (succeeds : action world = (.ok result, after))
    (handler : cause → Action cause other) :
    (tryCatch (action >>= next) handler) world = (tryCatch (next result) handler) after := by
  have same := bind_of_ok succeeds next
  rcases outcome : next result after with ⟨fault | found, last⟩
  · rw [tryCatch_of_error (same.trans outcome), tryCatch_of_error outcome]
  · rw [tryCatch_of_ok (same.trans outcome), tryCatch_of_ok outcome]

/-- A handled action succeeds if it does so by itself, or if the handler does. -/
theorem tryCatch_eq_ok
    {action : Action cause value}
    {handler : cause → Action cause value}
    {world after : World}
    {result : value}
    (succeeds : (tryCatch action handler) world = (.ok result, after)) :
    action world = (.ok result, after) ∨
      ∃ fault between, action world = (.error fault, between) ∧
        handler fault between = (.ok result, after) := by
  rcases outcome : action world with ⟨fault | first, between⟩
  · rw [tryCatch_of_error outcome] at succeeds
    exact .inr ⟨fault, between, rfl, succeeds⟩
  · rw [tryCatch_of_ok outcome] at succeeds
    exact .inl succeeds

/-! ## Relations that actions keep -/

/-- Holds if an action, whether it fails or not, leaves a world that is related to the one it began
with. -/
def Keeps (related : World → World → Prop) (action : Action cause value) : Prop :=
  ∀ world, related world (action world).2

namespace Keeps

variable {related : World → World → Prop} {action : Action cause value}

theorem of_eq
    (keeps : Keeps related action)
    {world after : World}
    {result : Except cause value}
    (outcome : action world = (result, after)) :
    related world after := by
  have kept := keeps world
  rwa [outcome] at kept

theorem bind
    (trans : ∀ first second third,
      related first second → related second third → related first third)
    {next : value → Action cause other}
    (keeps : Keeps related action)
    (nextKeeps : ∀ result, Keeps related (next result)) :
    Keeps related (action >>= next) := by
  intro world
  have first := keeps world
  rcases outcome : action world with ⟨fault | result, between⟩
  · rw [outcome] at first
    rwa [bind_of_error outcome]
  · rw [outcome] at first
    rw [bind_of_ok outcome]
    exact trans _ _ _ first (nextKeeps result between)

theorem tryCatch
    (trans : ∀ first second third,
      related first second → related second third → related first third)
    {handler : cause → Action cause value}
    (keeps : Keeps related action)
    (handles : ∀ fault, Keeps related (handler fault)) :
    Keeps related (tryCatch action handler) := by
  intro world
  have first := keeps world
  rcases outcome : action world with ⟨fault | result, between⟩
  · rw [outcome] at first
    rw [tryCatch_of_error outcome]
    exact trans _ _ _ first (handles fault between)
  · rw [outcome] at first
    rwa [tryCatch_of_ok outcome]

theorem withCause
    {inner outer : Type}
    {context : inner → outer}
    {action : Action inner value}
    (keeps : Keeps related action) :
    Keeps related (Action.withCause context action) :=
  keeps

/-- An action that changes nothing keeps what each world has to itself. -/
theorem of_unchanged
    (refl : ∀ world, related world world)
    (unchanged : ∀ world, (action world).2 = world) :
    Keeps related action := by
  intro world
  rw [unchanged]
  exact refl world

end Keeps

/-! ## Single actions -/

theorem ask_apply
    (question : Store → Place → Except IoError value)
    (world : World) :
    ask question world = (question world.store world.here, world) :=
  rfl

theorem ask_eq_ok_iff
    {question : Store → Place → Except IoError value}
    {world after : World}
    {result : value} :
    ask question world = (.ok result, after) ↔
      question world.store world.here = .ok result ∧ after = world := by
  unfold ask
  constructor
  · intro succeeds
    obtain ⟨found, same⟩ := Prod.mk.inj succeeds
    exact ⟨found, same.symm⟩
  · rintro ⟨found, rfl⟩
    rw [found]

theorem withCause_eq_ok_iff
    {inner outer : Type}
    {context : inner → outer}
    {action : Action inner value}
    {world after : World}
    {result : value} :
    withCause context action world = (.ok result, after) ↔
      action world = (.ok result, after) := by
  unfold withCause
  rcases action world with ⟨fault | first, between⟩
  · constructor
    · intro succeeds
      cases succeeds
    · intro succeeds
      cases succeeds
  · constructor
    · intro succeeds
      cases succeeds
      rfl
    · intro succeeds
      cases succeeds
      rfl

theorem withCause_of_error
    {inner outer : Type}
    {context : inner → outer}
    {action : Action inner value}
    {world after : World}
    {fault : inner}
    (fails : action world = (.error fault, after)) :
    withCause context action world = (.error (context fault), after) := by
  unfold withCause
  rw [fails]
  rfl

/-- An action fails in a larger context if it does so in its own. -/
theorem withCause_eq_error
    {inner outer : Type}
    {context : inner → outer}
    {action : Action inner value}
    {world after : World}
    {failure : outer}
    (fails : withCause context action world = (.error failure, after)) :
    ∃ fault, action world = (.error fault, after) ∧ failure = context fault := by
  rcases outcome : action world with ⟨fault | first, between⟩
  · rw [withCause_of_error outcome] at fails
    cases fails
    exact ⟨fault, rfl, rfl⟩
  · rw [withCause_eq_ok_iff.mpr outcome] at fails
    cases fails

/-- A sequence fails in its first part or in its rest. -/
theorem bind_eq_error
    {action : Action cause value}
    {next : value → Action cause other}
    {world after : World}
    {fault : cause}
    (fails : (action >>= next) world = (.error fault, after)) :
    action world = (.error fault, after) ∨
      ∃ first between, action world = (.ok first, between) ∧
        next first between = (.error fault, after) := by
  rcases outcome : action world with ⟨first | first, between⟩
  · rw [bind_of_error outcome] at fails
    cases fails
    exact .inl rfl
  · rw [bind_of_ok outcome] at fails
    exact .inr ⟨first, between, rfl, fails⟩

/-- A handled action fails where its handler does. -/
theorem tryCatch_eq_error
    {action : Action cause value}
    {handler : cause → Action cause value}
    {world after : World}
    {failure : cause}
    (fails : (tryCatch action handler) world = (.error failure, after)) :
    ∃ fault between, action world = (.error fault, between) ∧
      handler fault between = (.error failure, after) := by
  rcases outcome : action world with ⟨fault | first, between⟩
  · rw [tryCatch_of_error outcome] at fails
    exact ⟨fault, between, rfl, fails⟩
  · rw [tryCatch_of_ok outcome] at fails
    cases fails

theorem draw_of_ok
    {reader : Tape → Except cause value × Tape}
    {world : World}
    {result : value}
    (drawn : (reader world.tape).1 = .ok result) :
    draw reader world = (.ok result, { world with tape := (reader world.tape).2 }) :=
  Prod.ext drawn rfl

/-- A draw that succeeds changes nothing but the tape. -/
theorem draw_eq_ok
    {reader : Tape → Except cause value × Tape}
    {world after : World}
    {result : value}
    (succeeds : draw reader world = (.ok result, after)) :
    (reader world.tape).1 = .ok result ∧
      after = { world with tape := (reader world.tape).2 } := by
  obtain ⟨drawn, same⟩ := Prod.mk.inj succeeds
  exact ⟨drawn, same.symm⟩

/-- Holds if the system lets everything go that does not stand yet. -/
def LetsGo (world : World) : Prop :=
  ∀ place ∈ world.stuck, world.store.look place ≠ none

/-- Holds if the system refuses none of so many next changes. -/
def Grants (world : World) (count : Nat) : Prop :=
  ∀ refusal ∈ world.refusals.take count, refusal = none

theorem Grants.mono
    {world : World}
    {fewer count : Nat}
    (atMost : fewer ≤ count)
    (grants : Grants world count) :
    Grants world fewer :=
  fun refusal member => grants refusal (List.take_subset_take_left _ atMost member)

theorem Grants.tail
    {world : World}
    {count : Nat}
    (grants : Grants world (count + 1))
    (store : Store) :
    Grants { world with store, refusals := world.refusals.tail } count := by
  intro refusal member
  apply grants refusal
  cases shape : world.refusals with
  | nil =>
      rw [shape] at member
      simp at member
  | cons first rest =>
      rw [shape] at member
      exact List.mem_cons_of_mem first member

theorem change_of_ok
    {step : Store → Place → Except IoError Store}
    {world : World}
    {count : Nat}
    (grants : Grants world (count + 1))
    {store : Store}
    (allowed : step world.store world.here = .ok store) :
    change step world = (.ok (), { world with store, refusals := world.refusals.tail }) := by
  unfold change
  split
  · rename_i errno later refused
    have granted : some errno = none := by
      apply grants
      rw [refused]
      exact List.mem_cons_self
    contradiction
  · rw [allowed]

/-- Whether or not an entry is taken away, nothing is said about it. -/
theorem discardAt_fst (path : Path) (world : World) :
    ((discardAt path : Action cause Unit) world).1 = .ok () := by
  unfold discardAt
  cases world.store.removable world.here path with
  | ok place => rfl
  | error fault => rfl

section DiscardAt

variable {path : Path} {world after : World} {result : Except cause Unit}
  (discards : (discardAt path : Action cause Unit) world = (result, after))

include discards

theorem discardAt_of_removable
    {place : Place}
    (removes : world.store.removable world.here path = .ok place) :
    after = { world with store := world.store.release world.stuck place } := by
  unfold discardAt at discards
  simp only [removes] at discards
  cases discards
  rfl

theorem discardAt_of_not_removable
    (stays : ∀ place, world.store.removable world.here path ≠ .ok place) :
    after = world := by
  unfold discardAt at discards
  cases removal : world.store.removable world.here path with
  | ok place => exact absurd removal (stays place)
  | error fault =>
      simp only [removal] at discards
      cases discards
      rfl

end DiscardAt

theorem change_of_error
    {step : Store → Place → Except IoError Store}
    {world : World}
    {count : Nat}
    (grants : Grants world (count + 1))
    {fault : IoError}
    (forbidden : step world.store world.here = .error fault) :
    change step world = (.error fault, { world with refusals := world.refusals.tail }) := by
  unfold change
  split
  · rename_i errno later refused
    have granted : some errno = none := by
      apply grants
      rw [refused]
      exact List.mem_cons_self
    contradiction
  · rw [forbidden]

/-- A change that succeeds is one that the store allows, and it changes nothing else but the
refusals that are still to come. -/
theorem change_eq_ok
    {step : Store → Place → Except IoError Store}
    {world after : World}
    {result : Unit}
    (succeeds : change step world = (.ok result, after)) :
    ∃ store, step world.store world.here = .ok store ∧
      after = { world with store, refusals := world.refusals.tail } := by
  unfold change at succeeds
  split at succeeds
  · cases succeeds
  · split at succeeds
    · rename_i store allowed
      cases succeeds
      exact ⟨store, allowed, rfl⟩
    · cases succeeds

/-- A change that fails leaves the store and the directory alone. -/
theorem change_eq_error
    {step : Store → Place → Except IoError Store}
    {world after : World}
    {fault : IoError}
    (fails : change step world = (.error fault, after)) :
    after = { world with refusals := world.refusals.tail } := by
  unfold change at fails
  split at fails
  · rename_i errno later refusals
    cases fails
    rw [refusals]
    rfl
  · split at fails
    · cases fails
    · cases fails
      rfl

/-- A change keeps what a world has to itself, and every step that the store allows keeps. -/
theorem Keeps.change
    {related : World → World → Prop}
    (refused : ∀ world, related world { world with refusals := world.refusals.tail })
    {step : Store → Place → Except IoError Store}
    (allowed : ∀ world store, step world.store world.here = .ok store →
      related world { world with store, refusals := world.refusals.tail }) :
    Keeps related (change step) := by
  intro world
  rcases outcome : Action.change step world with ⟨fault | done, after⟩
  · rw [change_eq_error outcome]
    exact refused world
  · obtain ⟨store, isAllowed, rfl⟩ := change_eq_ok outcome
    exact allowed world store isAllowed

end Action

end SealedEnv
