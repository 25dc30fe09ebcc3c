import SealedEnv.Proofs.Vault.SealFailure

/-!
Contract: whatever is sealed into a file, one command after the other, is unsealed from it.

Owns:
- `SealRun`, a run of seals that succeed, each with a tape and surroundings of its own;
- `Holding`, what one seal keeps and the next one needs;
- the round trip of a whole run, and a run of two seals of one key.

Does not own: seals that fail, or runs in which several keys or files take part.
-/

namespace SealedEnv.Vault

/-! ## Runs -/

/-- A plaintext that was sealed under a name, and the random bytes that were at hand. -/
structure Sealing where
  key : String
  plaintext : String
  tape : Tape

def Sealing.plain (sealing : Sealing) : String × String := (sealing.key, sealing.plaintext)

/-- The seals of a list succeed one after the other, from one store to another.  The worlds in
which they run share the files and the working directory, and nothing else. -/
inductive SealRun (publicPath out : Path) (here : Place) :
    Store → List Sealing → Store → Prop where
  | done (store : Store) : SealRun publicPath out here store [] store
  | next
      {world after : World}
      {key plaintext message : String}
      {rest : List Sealing}
      {final : Store}
      (sameHere : world.here = here)
      (input : world.input = .ok (Utf8.encode plaintext))
      (seals : sealInput publicPath out key world = (.ok message, after))
      (others : SealRun publicPath out here after.store rest final) :
      SealRun publicPath out here world.store (⟨key, plaintext, world.tape⟩ :: rest) final

/-- A seal that succeeds has set its key to a sealed value. -/
theorem sealInput_eq_ok
    {publicPath out : Path}
    {key message : String}
    {publicKey plaintext : Bytes}
    {world after : World}
    (held : world.store.readText world.here publicPath = .ok (keyFileText publicKey))
    (input : world.input = .ok plaintext)
    (seals : sealInput publicPath out key world = (.ok message, after)) :
    isStoredKey key = true ∧ ∃ encapsulator value between,
      Kem.Encapsulator.ofBytes publicKey = .ok encapsulator ∧
      (sealValue encapsulator plaintext world.tape).1 = .ok value ∧
      between.store = world.store ∧ between.here = world.here ∧
      EnvFile.setKey out key value between = (.ok (), after) := by
  cases sealEnd_of_sealInput seals with
  | written storedKey loads found sealing sets =>
      cases input.symm.trans found
      refine ⟨storedKey, _, _, _, loads.check_eq held, congrArg Prod.fst sealing, ?_, ?_, sets⟩
      · rfl
      · rfl

/-- A seal succeeds if its key may be stored and the env file can be written. -/
theorem sealInput_of_writes
    {publicPath out : Path}
    {key text value : String}
    {publicKey plaintext : Bytes}
    {encapsulator : Kem.Encapsulator}
    {world between : World}
    (storedKey : isStoredKey key = true)
    (held : world.store.readText world.here publicPath = .ok (keyFileText publicKey))
    (checked : Kem.Encapsulator.ofBytes publicKey = .ok encapsulator)
    (input : world.input = .ok plaintext)
    (sealed : (sealValue encapsulator plaintext world.tape).1 = .ok value)
    (isBetween : between = { world with
      inputReads := world.inputReads + 1
      tape := (sealValue encapsulator plaintext world.tape).2 })
    (reads : world.store.readText world.here out = .ok text ∨
      (text = "" ∧ world.store.readText world.here out = .error (.os .noEntry)))
    (writes : (writeAtomicWithin out (Utf8.encode (EnvFile.update text key value))
      EnvFile.fileMode between).1 = .ok ()) :
    ∃ message, sealInput publicPath out key world = (.ok message,
      (writeAtomicWithin out (Utf8.encode (EnvFile.update text key value))
        EnvFile.fileMode between).2) := by
  have read : Action.withCause Failure.plaintextUnreadable Action.readInput world =
      (.ok plaintext, { world with inputReads := world.inputReads + 1 }) := by
    rw [Action.withCause_eq_ok_iff, ← input]
    rfl
  have sealedThere : (sealValue encapsulator plaintext
      { world with inputReads := world.inputReads + 1 }.tape).1 = .ok value := sealed
  have drawn := Action.draw_of_ok sealedThere
  have readsBetween : between.store.readText between.here out = .ok text ∨
      (text = "" ∧ between.store.readText between.here out = .error (.os .noEntry)) := by
    rwa [isBetween]
  have set : EnvFile.setKey out key value between = (.ok (), (writeAtomicWithin out
      (Utf8.encode (EnvFile.update text key value)) EnvFile.fileMode between).2) := by
    rw [EnvFile.setKey_eq_writeAtomicWithin readsBetween]
    exact Prod.ext writes rfl
  rw [← isBetween] at drawn
  refine ⟨s!"Wrote {key} to {out.display}", ?_⟩
  rw [sealInput_of_loads storedKey (loads_of_readText held checked)]
  refine (Action.bind_of_ok read _).trans ?_
  refine (Action.bind_of_ok drawn _).trans ?_
  exact Action.bind_of_ok (Action.withCause_eq_ok_iff.mpr set) _

/-! ## One seal -/

/-- A sealing and the value that stands for it in the file. -/
abbrev Stored := Sealing × String

def Stored.entry (stored : Stored) : String × String := (stored.1.key, stored.2)

/-- What holds of a store between two seals: both key files are sheltered from writes to the env
file, and the env file, where it is there, denotes the values that were sealed so far. -/
structure Holding
    (store : Store)
    (here : Place)
    (privatePath publicPath out : Path)
    (pair : Kem.KeyPair)
    (sealed : List Stored) : Prop where
  privateKey : store.Sheltered here privatePath (keyFileText pair.seed) out
  publicKey : store.Sheltered here publicPath (keyFileText pair.publicKey) out
  own : store.OwnAhead here out
  content : ∃ text, (store.readText here out = .ok text ∨
      (text = "" ∧ store.readText here out = .error (.os .noEntry))) ∧
    (∀ line ∈ Text.lines text.toList, line.getLast? ≠ some '\r') ∧
    EnvFile.parse text = EnvMap.ofList (sealed.map Stored.entry)
  values : ∀ stored ∈ sealed, ∃ encapsulator,
    Kem.Encapsulator.ofBytes pair.publicKey = .ok encapsulator ∧
    (sealValue encapsulator (Utf8.encode stored.1.plaintext) stored.1.tape).1 = .ok stored.2

theorem readText_of_sheltered
    {store : Store}
    {here : Place}
    {path other : Path}
    {text : String}
    (shelter : store.Sheltered here path text other) :
    store.readText here path = .ok text := by
  obtain ⟨place, holds, _⟩ := shelter
  exact holds.readText

/-- A seal that succeeds adds its value to those that are held. -/
theorem Holding.seal
    {here : Place}
    {privatePath publicPath out : Path}
    {pair : Kem.KeyPair}
    {sealed : List Stored}
    {world after : World}
    (holding : Holding world.store here privatePath publicPath out pair sealed)
    (sameHere : world.here = here)
    {key plaintext message : String}
    (input : world.input = .ok (Utf8.encode plaintext))
    (seals : sealInput publicPath out key world = (.ok message, after)) :
    ∃ value, Holding after.store here privatePath publicPath out pair
      (sealed ++ [(⟨key, plaintext, world.tape⟩, value)]) := by
  subst sameHere
  have publicRead := readText_of_sheltered holding.publicKey
  obtain ⟨storedKey, encapsulator, value, between, checked, sealedValue, sameStore, sameHere,
    set⟩ := sealInput_eq_ok publicRead input seals
  obtain ⟨text, reads, noReturns, denotes⟩ := holding.content
  have validKey := isRequestKey_of_isStoredKey storedKey
  obtain ⟨blob, _, built⟩ := sealValue_eq_ok sealedValue
  have plainEnds : EnvFile.hasPlainEnds value = true := by
    rw [built]
    exact Envelope.hasPlainEnds_build _ _
  rw [← sameStore, ← sameHere] at reads
  rw [EnvFile.setKey_eq_writeAtomicWithin reads] at set
  obtain ⟨_, place, replaced⟩ := Store.replaced_of_writeAtomicWithin set
  rw [sameStore, sameHere] at replaced
  have ahead := holding.own place replaced.entryOf_eq
  refine ⟨value, replaced.sheltered holding.own holding.privateKey,
    replaced.sheltered holding.own holding.publicKey, (replaced.entryOf_after holding.own).2,
    ⟨EnvFile.update text key value, .inl (replaced.holdsText ahead).1.readText,
      EnvFile.update_noReturns noReturns validKey value, ?_⟩, ?_⟩
  · rw [EnvFile.parse_update_eq_insert noReturns validKey plainEnds, denotes, List.map_append]
    unfold EnvMap.ofList
    rw [EnvMap.insertAll_append]
    rfl
  · intro stored member
    rcases List.mem_append.mp member with earlier | isNew
    · exact holding.values stored earlier
    · rw [List.mem_singleton.mp isNew]
      exact ⟨encapsulator, checked, sealedValue⟩

/-! ## Whole runs -/

/-- After a key pair was made nothing is held yet. -/
theorem holding_of_makeKeyPair
    {privatePath publicPath out : Path}
    {start made : World}
    {summary : String}
    (apart : start.store.Apart start.here [privatePath, publicPath, out])
    (absent : start.store.readText start.here out = .error (.os .noEntry))
    (makes : makeKeyPair privatePath publicPath start = (.ok summary, made)) :
    ∃ pair, (Kem.generate start.tape).1 = .ok pair ∧
      Holding made.store start.here privatePath publicPath out pair [] := by
  obtain ⟨pair, generated, _, privateKey, publicKey, own, reads⟩ :=
    sheltered_of_makeKeyPair apart makes
  refine ⟨pair, generated, privateKey, publicKey, own, ⟨"", .inr ⟨rfl, reads.trans absent⟩, ?_, ?_⟩,
    by simp⟩
  · simp
  · simp [EnvFile.parse, EnvFile.pairs, EnvFile.items]

/-- A run of seals adds a value for each of them, in order. -/
theorem Holding.run
    {here : Place}
    {privatePath publicPath out : Path}
    {pair : Kem.KeyPair}
    {store final : Store}
    {seals : List Sealing}
    (run : SealRun publicPath out here store seals final)
    {sealed : List Stored}
    (holding : Holding store here privatePath publicPath out pair sealed) :
    ∃ added : List Stored, added.map Prod.fst = seals ∧
      Holding final here privatePath publicPath out pair (sealed ++ added) := by
  -- `Holding` is the invariant; what a seal adds to it stands at the end of its list.
  induction run generalizing sealed with
  | done store => exact ⟨[], rfl, by rwa [List.append_nil]⟩
  | @next world after key plaintext message rest final sameHere input seals others
      inductionHypothesis =>
      obtain ⟨value, holdingAfter⟩ := holding.seal sameHere input seals
      obtain ⟨added, sameSeals, holdingFinal⟩ := inductionHypothesis holdingAfter
      refine ⟨(⟨key, plaintext, world.tape⟩, value) :: added, ?_, ?_⟩
      · rw [List.map_cons, sameSeals]
      · rwa [List.append_assoc] at holdingFinal

/-- Of a list of sealings the same one gives the value and the plaintext that look-up finds. -/
theorem lookup_stored (sealed : List Stored) (key : String) :
    (∃ stored ∈ sealed, stored.1.key = key ∧
      (sealed.map Stored.entry).lookup key = some stored.2 ∧
      (sealed.map fun stored => stored.1.plain).lookup key = some stored.1.plaintext) ∨
    ((sealed.map Stored.entry).lookup key = none ∧
      (sealed.map fun stored => stored.1.plain).lookup key = none) := by
  induction sealed with
  | nil => exact .inr ⟨rfl, rfl⟩
  | cons first rest inductionHypothesis =>
      by_cases same : key = first.1.key
      · refine .inl ⟨first, by simp, same.symm, ?_, ?_⟩
        · simp [Stored.entry, same]
        · simp [Sealing.plain, same]
      · have passes : (key == first.1.key) = false := beq_eq_false_iff_ne.mpr same
        simp only [List.map_cons, Stored.entry, Sealing.plain, List.lookup_cons, passes]
        rcases inductionHypothesis with ⟨stored, member, isKey, value, plaintext⟩ | neither
        · exact .inl ⟨stored, List.mem_cons_of_mem first member, isKey, value, plaintext⟩
        · exact .inr neither

/-- The values that are held open to the plaintexts that were sealed. -/
theorem Holding.opensTo
    {store : Store}
    {here : Place}
    {privatePath publicPath out : Path}
    {pair : Kem.KeyPair}
    {sealed : List Stored}
    (holding : Holding store here privatePath publicPath out pair sealed)
    {decapsulator : Kem.Decapsulator}
    (opens : ∀ encapsulator, Kem.Encapsulator.ofBytes pair.publicKey = .ok encapsulator →
      ∀ stored ∈ sealed, Kem.Opens encapsulator decapsulator stored.1.tape) :
    OpensTo (EnvMap.ofList (sealed.map Stored.entry))
      (EnvMap.ofList (sealed.map fun stored => stored.1.plain)) decapsulator := by
  intro key
  rw [EnvMap.get?_ofList, EnvMap.get?_ofList, ← List.map_reverse, ← List.map_reverse]
  rcases lookup_stored sealed.reverse key with ⟨stored, member, rfl, value, plaintext⟩ | neither
  · rw [value, plaintext]
    have inSealed := List.mem_reverse.mp member
    obtain ⟨encapsulator, checked, sealedValue⟩ := holding.values stored inSealed
    have opened := opens encapsulator checked stored inSealed
    obtain ⟨blob, _, built⟩ := sealValue_eq_ok sealedValue
    refine ⟨?_, stored.1.plaintext, rfl, unsealValue_of_sealValue opened sealedValue stored.1.key⟩
    rw [built]
    exact Envelope.isSealed_build _ _
  · rw [neither.1, neither.2]

/-- Unsealing the env file is unsealing the entries that it denotes. -/
theorem unsealSource_file
    {privatePath out : Path}
    {world : World}
    {seed : Bytes}
    {decapsulator : Kem.Decapsulator}
    {text : String}
    (privateKey : world.store.readText world.here privatePath = .ok (keyFileText seed))
    (expanded : Kem.Decapsulator.ofSeed seed = .ok decapsulator)
    (held : world.store.readText world.here out = .ok text ∨
      (text = "" ∧ world.store.readText world.here out = .error (.os .noEntry)))
    (requested : List String) :
    unsealSource (.file out) privatePath requested world =
      (unsealEntries out.display (EnvFile.parse text) requested decapsulator, world) := by
  have loaded := loadPrivateKey_apply privateKey
  rw [expanded, loadPrivateKey_eq] at loaded
  have isKey : privateKeyOf privatePath.display (world.store.readText world.here privatePath) =
      .ok decapsulator :=
    congrArg Prod.fst loaded
  rw [unsealSource_apply (entries_file held), isKey]
  rfl

/-- Whatever was sealed into a file that was not there before, by any run of seals that succeeded
after a key pair was made, is unsealed from it: without a request all keys in ascending order, each
with the plaintext of its last seal, and on request those that are asked for, each at its first
place.  The three paths must be apart, and the keys must agree on the randomness that was drawn. -/
theorem unsealSource_of_sealRun
    {privatePath publicPath out : Path}
    {start made : World}
    {summary : String}
    (apart : start.store.Apart start.here [privatePath, publicPath, out])
    (absent : start.store.readText start.here out = .error (.os .noEntry))
    (makes : makeKeyPair privatePath publicPath start = (.ok summary, made))
    {seals : List Sealing}
    {final : Store}
    (run : SealRun publicPath out start.here made.store seals final)
    (opens : ∀ pair, (Kem.generate start.tape).1 = .ok pair →
      ∀ encapsulator, Kem.Encapsulator.ofBytes pair.publicKey = .ok encapsulator →
      ∀ decapsulator, Kem.Decapsulator.ofSeed pair.seed = .ok decapsulator →
      ∀ sealing ∈ seals, Kem.Opens encapsulator decapsulator sealing.tape)
    {world : World}
    (sameStore : world.store = final)
    (sameHere : world.here = start.here) :
    (∃ order, unsealSource (.file out) privatePath [] world =
        (.ok ⟨order, EnvMap.ofList (seals.map Sealing.plain)⟩, world) ∧
      order.Pairwise (· < ·) ∧ ∀ key, key ∈ order ↔ ∃ sealing ∈ seals, sealing.key = key) ∧
    ∀ requested, requested ≠ [] → (∀ key ∈ requested, ∃ sealing ∈ seals, sealing.key = key) →
      ∃ values, unsealSource (.file out) privatePath requested world =
          (.ok ⟨requested.eraseDups, values⟩, world) ∧
        ∀ key, values.get? key =
          if key ∈ requested then (seals.map Sealing.plain).reverse.lookup key else none := by
  obtain ⟨pair, generated, holdingNone⟩ := holding_of_makeKeyPair apart absent makes
  obtain ⟨sealed, sameSeals, holding⟩ := holdingNone.run run
  rw [List.nil_append] at holding
  have expanded := ofSeed_of_generate generated
  have plains : (sealed.map fun stored => stored.1.plain) = seals.map Sealing.plain := by
    rw [← sameSeals, List.map_map]
    rfl
  have opensTo := holding.opensTo fun encapsulator checked stored member =>
    opens pair generated encapsulator checked _ expanded stored.1
      (sameSeals ▸ List.mem_map_of_mem member)
  rw [plains] at opensTo
  obtain ⟨text, held, _, denotes⟩ := holding.content
  rw [← denotes] at opensTo
  rw [← sameStore, ← sameHere] at held
  have privateRead := readText_of_sheltered holding.privateKey
  rw [← sameStore, ← sameHere] at privateRead
  have unsealed := unsealSource_file privateRead expanded held
  have sealedKeys : ∀ key, key ∈ (EnvFile.parse text).keys ↔
      ∃ sealing ∈ seals, sealing.key = key := by
    intro key
    rw [denotes, EnvMap.mem_keys_ofList_iff, List.map_map, ← sameSeals]
    simp [Stored.entry]
  constructor
  · refine ⟨(EnvFile.parse text).keys, ?_, (EnvFile.parse text).pairwise_keys, sealedKeys⟩
    rw [unsealed, opensTo.unsealEntries_nil]
  · intro requested filled present
    obtain ⟨values, result, found⟩ := opensTo.unsealEntries_requested out.display filled
      fun key member => (sealedKeys key).mpr (present key member)
    refine ⟨values, by rw [unsealed, result], fun key => ?_⟩
    rw [found, EnvMap.get?_ofList]

/-! ## Two seals of one key -/

namespace TwoSeals

/-- An empty store, and zeros to draw. -/
def start : World := { (default : World) with tape := List.replicate 64 0 }

/-- The world after the key pair was made, with its private half in `k` and its public half in
`p`. -/
def made : World := (makeKeyPair [107] [112] start).2

def encapsulator : Kem.Encapsulator := (Kem.expandSeed (List.replicate 64 0)).encapsulator

def tape : Tape := List.replicate 44 0

/-- A plaintext that is sealed as the value of `A`. -/
def sealing (plaintext : String) : Sealing := ⟨"A", plaintext, tape⟩

/-- A plaintext as it is stored. -/
def value (plaintext : String) : String :=
  ((sealValue encapsulator (Utf8.encode plaintext) tape).1.toOption).getD ""

/-- The world in which a plaintext is sealed. -/
def before (store : Store) (plaintext : String) : World :=
  { (default : World) with store, tape, input := .ok (Utf8.encode plaintext) }

/-- The world in which its value is written. -/
def between (store : Store) (plaintext : String) : World :=
  { before store plaintext with
    inputReads := 1
    tape := (sealValue encapsulator (Utf8.encode plaintext) tape).2 }

/-- The world in which `text` was written to the env file `e`. -/
def after (store : Store) (plaintext text : String) : World :=
  (writeAtomicWithin [101] (Utf8.encode text) EnvFile.fileMode (between store plaintext)).2

def firstText : String := EnvFile.update "" "A" (value "x")

def middle : Store := (after made.store "x" firstText).store

/-- The seal of a plaintext succeeds in a store that the env file can be written to. -/
theorem sealInput_before
    {store : Store}
    {plaintext text : String}
    (held : store.readText [] [112] =
      .ok (keyFileText (Kem.KeyPair.ofSeed (List.replicate 64 0)).publicKey))
    (fits : (Utf8.encode plaintext).length ≤ Cipher.plaintextLimit)
    (reads : store.readText [] [101] = .ok text ∨
      (text = "" ∧ store.readText [] [101] = .error (.os .noEntry)))
    (writes : ∀ data, (writeAtomicWithin [101] data EnvFile.fileMode
      (between store plaintext)).1 = .ok ()) :
    ∃ message, sealInput [112] [101] "A" (before store plaintext) =
      (.ok message, after store plaintext (EnvFile.update text "A" (value plaintext))) := by
  have enough : 32 + Cipher.nonceLength ≤ tape.length := by decide
  obtain ⟨found, sealed⟩ := exists_sealValue encapsulator fits enough
  have isValue : found = value plaintext := by
    unfold value
    rw [sealed]
    rfl
  subst isValue
  exact sealInput_of_writes (by decide) held (Kem.ofBytes_ofSeed _) rfl sealed rfl reads (writes _)

theorem store_before (store : Store) (plaintext : String) :
    (before store plaintext).store = store := rfl

theorem run_before
    {store final : Store}
    {plaintext message : String}
    {there : World}
    {others : List Sealing}
    (seals : sealInput [112] [101] "A" (before store plaintext) = (.ok message, there))
    (run : SealRun [112] [101] [] there.store others final) :
    SealRun [112] [101] [] store (sealing plaintext :: others) final := by
  have input : (before store plaintext).input = .ok (Utf8.encode plaintext) := rfl
  exact SealRun.next rfl input seals run

theorem exists_ok_of_isSome
    {cause value : Type}
    {result : Except cause value}
    (succeeds : result.toOption.isSome = true) :
    ∃ found, result = .ok found := by
  cases result with
  | error fault => contradiction
  | ok found => exact ⟨found, rfl⟩

theorem apart : start.store.Apart start.here [[107], [112], [101]] where
  pairwise := by
    unfold Store.Avoids
    decide +kernel
  own := by
    unfold Store.OwnAhead
    decide +kernel

theorem exists_makes : ∃ summary, makeKeyPair [107] [112] start = (.ok summary, made) := by
  have succeeds : (makeKeyPair [107] [112] start).1.toOption.isSome = true := by
    decide +kernel
  obtain ⟨summary, isSummary⟩ := exists_ok_of_isSome succeeds
  exact ⟨summary, Prod.ext isSummary rfl⟩

theorem writes_first (data : Bytes) :
    (writeAtomicWithin [101] data EnvFile.fileMode (between made.store "x")).1 = .ok () := by
  rfl

set_option maxRecDepth 1000 in
theorem writes_second (data : Bytes) :
    (writeAtomicWithin [101] data EnvFile.fileMode (between middle "y")).1 = .ok () := by
  rfl

theorem absent : start.store.readText start.here [101] = .error (.os .noEntry) := by
  decide +kernel

theorem absent_made : made.store.readText [] [101] = .error (.os .noEntry) := by
  decide +kernel

theorem generate_start :
    (Kem.generate start.tape).1 = .ok (Kem.KeyPair.ofSeed (List.replicate 64 0)) := rfl

theorem exists_run :
    ∃ final : World, final.here = [] ∧
      SealRun [112] [101] [] made.store [sealing "x", sealing "y"] final.store := by
  have fits : ∀ plaintext ∈ ["x", "y"],
      (Utf8.encode plaintext).length ≤ Cipher.plaintextLimit := by
    decide
  obtain ⟨summary, makes⟩ := exists_makes
  obtain ⟨pair, generated, holding⟩ := holding_of_makeKeyPair apart absent makes
  cases generate_start.symm.trans generated
  obtain ⟨_, sealsFirst⟩ := sealInput_before (readText_of_sheltered holding.publicKey)
    (fits "x" (by simp)) (.inr ⟨rfl, absent_made⟩) writes_first
  have holdingBefore : Holding (before made.store "x").store [] [107] [112] [101] _ [] := holding
  have input : (before made.store "x").input = .ok (Utf8.encode "x") := rfl
  obtain ⟨_, holdingFirst⟩ := holdingBefore.seal rfl input sealsFirst
  obtain ⟨text, reads, _⟩ := holdingFirst.content
  obtain ⟨_, sealsSecond⟩ := sealInput_before (readText_of_sheltered holdingFirst.publicKey)
    (fits "y" (by simp)) reads writes_second
  have run := run_before sealsFirst (run_before sealsSecond (.done _))
  rw [← store_before (after _ "y" _).store ""] at run
  exact ⟨_, rfl, run⟩

/-- The key pair opens what is encapsulated for each of the seals. -/
theorem opens
    {pair : Kem.KeyPair}
    (generated : (Kem.generate start.tape).1 = .ok pair)
    {encapsulator : Kem.Encapsulator}
    (checked : Kem.Encapsulator.ofBytes pair.publicKey = .ok encapsulator)
    {decapsulator : Kem.Decapsulator}
    (expanded : Kem.Decapsulator.ofSeed pair.seed = .ok decapsulator) :
    Kem.Opens encapsulator decapsulator tape := by
  cases generate_start.symm.trans generated
  cases (Kem.ofBytes_ofSeed _).symm.trans checked
  cases expanded
  exact Kem.opens_zeros rfl

end TwoSeals

open TwoSeals in
/-- A key that is sealed twice is unsealed to its second plaintext. -/
theorem unsealSource_of_sealRun_repeatedKey :
    ∃ final : World, final.here = [] ∧
      SealRun [112] [101] [] made.store [sealing "x", sealing "y"] final.store ∧
      ∃ order, unsealSource (.file [101]) [107] [] final =
        (.ok ⟨order, EnvMap.ofList [("A", "y")]⟩, final) := by
  obtain ⟨summary, makes⟩ := exists_makes
  obtain ⟨final, here, run⟩ := exists_run
  have sameTape : ∀ drawn ∈ [sealing "x", sealing "y"], drawn.tape = tape := by decide
  obtain ⟨⟨order, unsealed, _⟩, _⟩ := unsealSource_of_sealRun apart absent makes run
    (fun _ generated _ checked _ expanded drawn member =>
      (sameTape drawn member).symm ▸ opens generated checked expanded) rfl here
  have last : EnvMap.ofList [("A", "x"), ("A", "y")] = EnvMap.ofList [("A", "y")] := by decide
  exact ⟨final, here, run, order, last ▸ unsealed⟩

end SealedEnv.Vault
