import SealedEnv.Proofs.Store.AllOrNothing
import SealedEnv.Proofs.Vault.Unseal

/-!
Contract: which halves of a key pair are there after it was made, and after it was not.

Owns:
- making a key pair as two writes, and when both halves can be loaded after them;
- what is left when a key pair cannot be made.

Does not own: keys that someone else put into the files.
-/

namespace SealedEnv.Vault

open Store

/-! ## Pairs that were made -/

section Made

variable {privatePath publicPath : Path} {start made : World} {summary : String}

/-- A key pair that was made is two files that were written one after the other, with the halves of
the seed that was drawn. -/
theorem exists_wrote_of_makeKeyPair
    (makes : makeKeyPair privatePath publicPath start = (.ok summary, made)) :
    (start.tape.take Kem.seedLength).length = Kem.seedLength ∧ made.here = start.here ∧
      ∃ between privatePlace publicPlace,
        Wrote start.store start.here privatePath privatePlace privateKeyMode
          (keyLine (start.tape.take Kem.seedLength)) between ∧
        Wrote between start.here publicPath publicPlace publicKeyMode
          (keyLine (Kem.KeyPair.ofSeed (start.tape.take Kem.seedLength)).publicKey) made.store := by
  obtain ⟨pair, tape, between, generated, first, second⟩ := makeKeyPair_eq_ok makes
  obtain ⟨enough, rfl⟩ := Kem.generate_eq_ok generated
  obtain ⟨firstHere, privatePlace, privateWrote⟩ := wrote_of_writeAtomic first
  obtain ⟨secondHere, publicPlace, publicWrote⟩ := wrote_of_writeAtomic second
  have betweenHere : between.here = start.here := firstHere
  rw [betweenHere] at publicWrote secondHere
  exact ⟨List.length_take_of_le enough, secondHere, between.store, privatePlace, publicPlace,
    privateWrote, publicWrote⟩

theorem readText_of_keyLine
    {store : Store}
    {here place : Place}
    {path : Path}
    {mode : Nat}
    {key : Bytes}
    (located : store.locate here path true = .ok (.present place (.file mode (keyLine key)))) :
    store.readText here path = .ok (keyFileText key) := by
  rw [readText_of_locate located]
  unfold keyLine keyFileText
  rw [Utf8.decode?_encode]

/-- A public key is too long for a seed. -/
theorem not_loads_publicKey
    {world : World}
    {path : Path}
    {seed : Bytes}
    (held : world.store.readText world.here path =
      .ok (keyFileText (Kem.KeyPair.ofSeed seed).publicKey))
    (decapsulator : Kem.Decapsulator) :
    ¬Loads Kem.Decapsulator.ofSeed world path decapsulator := by
  intro loads
  have checked := loads.check_eq held
  unfold Kem.Decapsulator.ofSeed at checked
  rw [Kem.length_publicKey_ofSeed, if_pos (by decide)] at checked
  cases checked

theorem not_loads_of_barred
    {value : Type}
    {check : Bytes → Except Kem.Refusal value}
    {world : World}
    {path : Path}
    (barred : world.store.Barred world.here path)
    (found : value) :
    ¬Loads check world path found := by
  intro loads
  obtain ⟨text, _, reads, _⟩ := loads
  exact barred.readText_ne_ok text reads

/-- After a key pair was made at separate paths both halves are loaded from them, each with its own
permissions; the private key is the seed that was drawn, and the public key is the one that belongs
to it.  After any other key pair was made one of the halves cannot be loaded. -/
theorem makeKeyPair_loads_iff
    (makes : makeKeyPair privatePath publicPath start = (.ok summary, made)) :
    (start.store.Separate start.here privatePath publicPath →
      ∃ seed decapsulator, seed = start.tape.take 64 ∧ seed.length = 64 ∧
        Kem.Decapsulator.ofSeed seed = .ok decapsulator ∧
        loadPrivateKey privatePath made = (.ok decapsulator, made) ∧
        loadPublicKey publicPath made = (.ok decapsulator.encapsulator, made) ∧
        made.store.node made.here privatePath true = .ok (.file 0o600 (keyLine seed)) ∧
        made.store.node made.here publicPath true =
          .ok (.file 0o644 (keyLine decapsulator.encapsulator.bytes))) ∧
    ((∃ decapsulator, (loadPrivateKey privatePath made).1 = .ok decapsulator) ∧
      (∃ encapsulator, (loadPublicKey publicPath made).1 = .ok encapsulator) →
        start.store.Separate start.here privatePath publicPath) := by
  obtain ⟨isSeed, sameHere, between, privatePlace, publicPlace, first, second⟩ :=
    exists_wrote_of_makeKeyPair makes
  rw [← sameHere] at first second ⊢
  constructor
  · intro separate
    obtain ⟨toPrivate, toPublic⟩ := first.locate_of_separate second separate true
    have expanded : Kem.Decapsulator.ofSeed (start.tape.take Kem.seedLength) =
        .ok (Kem.expandSeed (start.tape.take Kem.seedLength)) :=
      if_neg (not_not_intro isSeed)
    have privateLoads := loads_of_readText (readText_of_keyLine toPrivate) expanded
    have publicLoads := loads_of_readText (readText_of_keyLine toPublic) (Kem.ofBytes_ofSeed _)
    exact ⟨_, _, rfl, isSeed, expanded, loadPrivateKey_eq_ok_iff.mpr ⟨privateLoads, rfl⟩,
      loadPublicKey_eq_ok_iff.mpr ⟨publicLoads, rfl⟩, node_of_locate toPrivate,
      node_of_locate toPublic⟩
  · intro loaded
    obtain ⟨⟨decapsulator, privateLoaded⟩, encapsulator, publicLoaded⟩ := loaded
    obtain ⟨privateLoads, -⟩ := loadPrivateKey_eq_ok_iff.mp (Prod.ext privateLoaded rfl)
    obtain ⟨publicLoads, -⟩ := loadPublicKey_eq_ok_iff.mp (Prod.ext publicLoaded rfl)
    by_contra together
    rcases first.of_not_separate second together with barred | barred | overwritten
    · exact not_loads_of_barred barred decapsulator privateLoads
    · exact not_loads_of_barred barred encapsulator publicLoads
    · exact not_loads_publicKey (readText_of_keyLine (overwritten true)) decapsulator privateLoads

end Made

namespace Halves

/-- An empty store, and zeros to draw. -/
def start : World := { (default : World) with tape := List.replicate 64 0 }

theorem exists_makes
    (privatePath publicPath : Path)
    (succeeds : (makeKeyPair privatePath publicPath start).1.toOption.isSome = true) :
    ∃ summary made, makeKeyPair privatePath publicPath start = (.ok summary, made) := by
  rcases outcome : makeKeyPair privatePath publicPath start with ⟨failure | summary, made⟩
  · rw [outcome] at succeeds
    contradiction
  · exact ⟨summary, made, rfl⟩

theorem separate : start.store.Separate start.here [107] [112] where
  own := by
    unfold OwnAhead
    decide +kernel
  otherOwn := by
    unfold OwnAhead
    decide +kernel
  clear := by decide +kernel

end Halves

open Halves in
/-- A key pair in `k` and `p`. -/
theorem makeKeyPair_loads_iff_twoFiles :
    ∃ summary made, makeKeyPair [107] [112] start = (.ok summary, made) ∧
      ∃ decapsulator, loadPrivateKey [107] made = (.ok decapsulator, made) ∧
        loadPublicKey [112] made = (.ok decapsulator.encapsulator, made) := by
  obtain ⟨summary, made, makes⟩ := exists_makes [107] [112] (by decide +kernel)
  obtain ⟨loads, -⟩ := makeKeyPair_loads_iff makes
  obtain ⟨_, decapsulator, -, -, -, privateLoads, publicLoads, -⟩ := loads separate
  exact ⟨summary, made, makes, decapsulator, privateLoads, publicLoads⟩

open Halves in
/-- A key pair of which both halves go to `k` is made, and its private half is gone. -/
theorem makeKeyPair_onto_itself :
    ∃ summary made, makeKeyPair [107] [107] start = (.ok summary, made) ∧
      ∀ decapsulator, (loadPrivateKey [107] made).1 ≠ .ok decapsulator := by
  obtain ⟨summary, made, makes⟩ := exists_makes [107] [107] (by decide +kernel)
  obtain ⟨-, sameHere, between, _, place, -, second⟩ := exists_wrote_of_makeKeyPair makes
  have atOnce : place ∉ between.way start.here [107] := by
    have noWay : between.way start.here [107] = [] := rfl
    rw [noWay]
    exact List.not_mem_nil
  have toPublic := second.locate atOnce true
  rw [← sameHere] at toPublic
  refine ⟨summary, made, makes, fun decapsulator loaded => ?_⟩
  obtain ⟨loads, -⟩ := loadPrivateKey_eq_ok_iff.mp (Prod.ext loaded rfl)
  exact not_loads_publicKey (readText_of_keyLine toPublic) decapsulator loads

/-! ## Pairs that were not made -/

section Unmade

variable {privatePath publicPath : Path} {start after : World} {failure : Failure}

/-- The ways in which a key pair is not made. -/
inductive Unmade (privatePath publicPath : Path) (start : World) : Failure → World → Prop where
  | ungenerated (cause : String) :
      Unmade privatePath publicPath start (.keyGenerationFailed cause) start
  | privateUnwritten
      {pair : Kem.KeyPair}
      {tape : Tape}
      {cause : IoError}
      {after : World}
      (fails : writeAtomic privatePath (keyLine pair.seed) privateKeyMode { start with tape } =
        (.error cause, after)) :
      Unmade privatePath publicPath start (.privateKeyWriteFailed privatePath.display cause) after
  | publicUnwritten
      {pair : Kem.KeyPair}
      {tape : Tape}
      {cause : IoError}
      {between after : World}
      (generated : (Kem.generate start.tape).1 = .ok pair)
      (written : writeAtomic privatePath (keyLine pair.seed) privateKeyMode { start with tape } =
        (.ok (), between))
      (fails : writeAtomic publicPath (keyLine pair.publicKey) publicKeyMode between =
        (.error cause, after))
      {last : World}
      (discards : (Action.discardAt privatePath : Action Failure Unit) after = (.ok (), last)) :
      Unmade privatePath publicPath start (.publicKeyWriteFailed publicPath.display cause) last

theorem unmade_of_makeKeyPair
    (fails : makeKeyPair privatePath publicPath start = (.error failure, after)) :
    Unmade privatePath publicPath start failure after := by
  unfold makeKeyPair at fails
  rcases Action.bind_eq_error fails with undrawn | ⟨pair, _, drawn, fails⟩
  · unfold Action.draw at undrawn
    rcases generated : Kem.generate start.tape with ⟨refusal | pair, rest⟩
    · have same := Kem.generate_eq_error (congrArg Prod.fst generated)
      rw [generated] at same
      have untouched : rest = start.tape := same
      simp only [generated, untouched] at undrawn
      cases undrawn
      exact .ungenerated _
    · simp only [generated] at undrawn
      cases undrawn
  obtain ⟨generated, rfl⟩ := Action.draw_eq_ok drawn
  rcases Action.bind_eq_error fails with unwritten | ⟨_, between, written, fails⟩
  · obtain ⟨cause, fault, rfl⟩ := Action.withCause_eq_error unwritten
    exact .privateUnwritten fault
  rw [Action.withCause_eq_ok_iff] at written
  rcases Action.bind_eq_error fails with handled | ⟨_, _, _, done⟩
  · obtain ⟨_, last, unwritten, handled⟩ := Action.tryCatch_eq_error handled
    obtain ⟨cause, fault, rfl⟩ := Action.withCause_eq_error unwritten
    have discards : (Action.discardAt privatePath : Action Failure Unit) last = (.ok (), _) :=
      Prod.ext (Action.discardAt_fst privatePath last) rfl
    rw [Action.bind_of_ok discards] at handled
    cases handled
    exact .publicUnwritten (mapError_eq_ok generated) written fault discards
  · cases done

/-- What a rollback makes of the store that the writes have left.  The private half is discarded
through its path, unless the path passes its own entry before its end, for then it is barred by the
file. -/
structure RolledBack
    (privatePath : Path)
    (start : World)
    (place : Place)
    (last left : World) : Prop where
  others : ∀ other, other ≠ place → left.store.look other = last.store.look other
  gone : start.store.OwnAhead start.here privatePath → place ∉ last.stuck →
    left.store.look place = none ∧ ∃ directory name, ∀ follow,
      left.store.locate start.here privatePath follow = .ok (.absent directory name false)
  stays : ¬start.store.OwnAhead start.here privatePath ∨ place ∈ last.stuck →
    left.store = last.store
  barred : ¬start.store.OwnAhead start.here privatePath →
    last.store.Barred start.here privatePath

theorem rolledBack_of_discardAt
    {seed : Bytes}
    {between last left : World}
    {place : Place}
    (wrote : Wrote start.store start.here privatePath place privateKeyMode (keyLine seed)
      between.store)
    {added : Option Place}
    (adds : AddsFile added between.store last.store)
    (sameHere : last.here = start.here)
    (discards : (Action.discardAt privatePath : Action Failure Unit) last = (.ok (), left)) :
    RolledBack privatePath start place last left := by
  by_cases own : start.store.OwnAhead start.here privatePath
  · have ahead := wrote.ownAhead_iff.mp own
    have held := adds.look_of_standing wrote.held
    have way := wrote.way_eq ahead
    obtain ⟨directory, name, rfl, entry⟩ := wrote.entry
    obtain ⟨lastEntry, sameWay⟩ := adds.entryAt (wrote.entryAt_after entry ahead)
    have removes := lastEntry.removable_of_file held
    rw [← way, ← sameWay] at ahead
    rw [← sameHere] at removes
    obtain rfl := Action.discardAt_of_removable discards removes
    refine ⟨fun other different => ?_, fun _ notStuck => ?_, fun kept => ?_, fun notOwn => ?_⟩
    · rw [look_release_name, if_neg (not_and_of_not_left _ different)]
    · unfold release
      rw [if_neg notStuck, look_erase_name, if_pos rfl]
      exact ⟨rfl, directory, name, lastEntry.locate_erase ahead⟩
    · unfold release
      rw [if_pos (kept.resolve_left (not_not_intro own))]
    · exact absurd own notOwn
  · have barred := adds.barred (wrote.barred_self own)
    have unmoved : left = last := by
      apply Action.discardAt_of_not_removable discards
      rw [sameHere]
      exact barred.removable_ne_ok
    rw [unmoved]
    exact ⟨fun _ _ => rfl, fun isOwn => absurd isOwn own, fun _ => rfl, fun _ => barred⟩

/-- What a key pair leaves whose public half could not be written: the entry that the private path
ended at, and a passing file, if `added` is its place, that is stuck. -/
structure LeavesHalf
    (privatePath : Path)
    (start : World)
    (place : Place)
    (added : Option Place)
    (after : World) : Prop where
  entry : start.store.entryOf start.here privatePath = some place
  made : ∀ file ∈ added, file ≠ place ∧ file ∈ start.stuck ∧ start.store.look file = none ∧
    ∃ mode data, after.store.look file = some (.file mode data)
  others : ∀ other, other ≠ place → other ∉ added →
    after.store.look other = start.store.look other
  gone : start.store.OwnAhead start.here privatePath → place ∉ start.stuck →
    after.store.look place = none ∧ ∃ directory name, ∀ follow,
      after.store.locate start.here privatePath follow = .ok (.absent directory name false)
  stays : ¬start.store.OwnAhead start.here privatePath ∨ place ∈ start.stuck →
    after.store.look place = some (.file 0o600 (keyLine (start.tape.take 64)))
  away : ¬start.store.OwnAhead start.here privatePath → ∀ follow found held,
    after.store.locate start.here privatePath follow ≠ .ok (.present found held)

/-- If everything that is new can be taken away, no passing file is left. -/
theorem LeavesHalf.eq_none
    {place : Place}
    {added : Option Place}
    (leaves : LeavesHalf privatePath start place added after)
    (letsGo : Action.LetsGo start) :
    added = none := by
  cases isAdded : added with
  | none => rfl
  | some file =>
      obtain ⟨-, isStuck, vacant, -⟩ := leaves.made file isAdded
      exact absurd vacant (letsGo file isStuck)

theorem exists_leavesHalf
    {pair : Kem.KeyPair}
    {tape : Tape}
    {cause : IoError}
    {between last left : World}
    (generated : (Kem.generate start.tape).1 = .ok pair)
    (written : writeAtomic privatePath (keyLine pair.seed) privateKeyMode { start with tape } =
      (.ok (), between))
    (fails : writeAtomic publicPath (keyLine pair.publicKey) publicKeyMode between =
      (.error cause, last))
    (discards : (Action.discardAt privatePath : Action Failure Unit) last = (.ok (), left)) :
    ∃ place added, LeavesHalf privatePath start place added left := by
  obtain ⟨-, rfl⟩ := Kem.generate_eq_ok generated
  obtain ⟨-, place, wrote⟩ := wrote_of_writeAtomic written
  have betweenFiles : OnlyFiles { start with tape } between :=
    (OnlyFiles.writeAtomic _ _ _).of_eq written
  have lastFiles : OnlyFiles between last := (OnlyFiles.writeAtomic _ _ _).of_eq fails
  have sameHere : last.here = start.here := by rw [lastFiles, betweenFiles]
  have sameStuck : last.stuck = start.stuck := by rw [lastFiles, betweenFiles]
  have betweenStuck : between.stuck = start.stuck := by rw [betweenFiles]
  obtain ⟨added, adds, isStuck⟩ :=
    (AtomicWrite.leaves_of_writeAtomic_error fails).1.exists_addsFile
  have apart : ∀ file ∈ added, file ≠ place := by
    rintro file isAdded rfl
    have standing := (adds.made file isAdded).1
    rw [wrote.held] at standing
    contradiction
  have held := adds.look_of_standing wrote.held
  have rolled := rolledBack_of_discardAt wrote adds sameHere discards
  refine ⟨place, added, ?_⟩
  exact
    { entry := wrote.entryOf_eq
      made := by
        intro file isAdded
        have different := apart file isAdded
        obtain ⟨vacant, standing⟩ := adds.made file isAdded
        rw [wrote.look_other different] at vacant
        rw [← rolled.others file different] at standing
        exact ⟨different, betweenStuck ▸ isStuck file isAdded, vacant, standing⟩
      others := by
        intro other different notAdded
        rw [rolled.others other different, adds.others other notAdded,
          wrote.look_other different]
      gone := by
        intro own notStuck
        exact rolled.gone own (sameStuck ▸ notStuck)
      stays := by
        intro kept
        rw [rolled.stays (sameStuck ▸ kept)]
        exact held
      away := by
        intro notOwn
        rw [rolled.stays (.inl notOwn)]
        exact (rolled.barred notOwn).locate_ne_present }

/-- A key pair that cannot be made leaves no half behind.  If the seed cannot be drawn or the
private half cannot be written, no file has changed.  If the public half cannot be written, nothing
has changed but the entry that the private path ended at, and that is vacant; only where the private
path passes this entry before its end does the private half stay in it, and the path leads to
nothing.  A system that does not let what is new go keeps the private half or a passing file as
well. -/
theorem makeKeyPair_leaves_no_half
    (fails : makeKeyPair privatePath publicPath start = (.error failure, after)) :
    ((∃ cause, failure = .keyGenerationFailed cause) ∧ after = start) ∨
    ((∃ cause, failure = .privateKeyWriteFailed privatePath.display cause) ∧
      AtomicWrite.Leaves start privatePath after.store ∧
      (Action.LetsGo start → after.store = start.store)) ∨
    ((∃ cause, failure = .publicKeyWriteFailed publicPath.display cause) ∧
      ∃ place added, LeavesHalf privatePath start place added after ∧
        (Action.LetsGo start → added = none)) := by
  cases unmade_of_makeKeyPair fails with
  | ungenerated cause => exact .inl ⟨⟨cause, rfl⟩, rfl⟩
  | @privateUnwritten pair tape cause _ unwritten =>
      obtain ⟨leaves, -⟩ := AtomicWrite.leaves_of_writeAtomic_error unwritten
      exact .inr (.inl ⟨⟨cause, rfl⟩, leaves, leaves.eq_of_letsGo⟩)
  | @publicUnwritten pair tape cause between last generated written unwritten left discards =>
      obtain ⟨place, added, leaves⟩ := exists_leavesHalf generated written unwritten discards
      exact .inr (.inr ⟨⟨cause, rfl⟩, place, added, leaves, leaves.eq_none⟩)

end Unmade

namespace Halves

/-- The path `n/p`, whose directory is not there. -/
def nowhere : Path := [110, 47, 112]

/-- A store with a link that leads to a directory, and zeros to draw. -/
def linked : World := { Linked.world with tape := List.replicate 64 0 }

theorem exists_fails : ∃ cause after, makeKeyPair [107] nowhere start =
    (.error (.publicKeyWriteFailed nowhere.display cause), after) :=
  ⟨_, _, rfl⟩

end Halves

open Halves in
/-- The private half in `k` is removed if the directory of the public half is not there. -/
theorem makeKeyPair_leaves_no_half_nowhere :
    ∃ cause after, makeKeyPair [107] nowhere start =
        (.error (.publicKeyWriteFailed nowhere.display cause), after) ∧
      after.store.look [[107]] = none := by
  obtain ⟨cause, after, fails⟩ := exists_fails
  have own : start.store.OwnAhead start.here [107] := by
    unfold OwnAhead
    decide +kernel
  have isEntry : start.store.entryOf start.here [107] = some [[107]] := by decide +kernel
  refine ⟨cause, after, fails, ?_⟩
  rcases makeKeyPair_leaves_no_half fails with ⟨⟨_, isOther⟩, -⟩ | ⟨⟨_, isOther⟩, -⟩ | ⟨-, left⟩
  · cases isOther
  · cases isOther
  · obtain ⟨place, added, leaves, -⟩ := left
    cases isEntry.symm.trans leaves.entry
    exact (leaves.gone own List.not_mem_nil).1

open Halves in
/-- The private half stays in `l` if it was written through `l/../l`, a path through the link that
its file has replaced. -/
theorem makeKeyPair_leaves_private_half :
    ∃ cause after, makeKeyPair Linked.throughItself nowhere linked =
        (.error (.publicKeyWriteFailed nowhere.display cause), after) ∧
      after.store.look [[108]] = some (.file 0o600 (keyLine (List.replicate 64 0))) := by
  refine ⟨_, (makeKeyPair Linked.throughItself nowhere linked).2, rfl, ?_⟩
  decide +kernel

end SealedEnv.Vault
