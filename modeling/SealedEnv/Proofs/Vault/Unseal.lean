import SealedEnv.Proofs.EnvFile.Setting
import SealedEnv.Proofs.EnvMap
import SealedEnv.Proofs.Vault.KeyPair
import SealedEnv.Vault.Unseal

/-!
Contract: what unsealing gives of entries that can all be opened.

Owns:
- loading the keys of key files, and what can be wrong with them;
- `GivesAll`, the plaintexts of the chosen keys;
- unsealing a source as three steps, none of which changes anything;
- what the names of files and origins count for, which is the words of failures.

Does not own: how the entries came to be, or what becomes of entries that cannot be opened.
-/

namespace SealedEnv.Vault

/-! ## Key files -/

theorem askText_of_readText
    (context : IoError → Failure)
    {path : Path}
    {text : String}
    {world : World}
    (held : world.store.readText world.here path = .ok text) :
    Action.withCause context (Action.ask fun store here => store.readText here path) world =
      (.ok text, world) := by
  rw [Action.withCause_eq_ok_iff, Action.ask_eq_ok_iff]
  exact ⟨held, rfl⟩

/-- Holds if a key file can be read, as text that is the base64 form of a key. -/
def Loads
    {value : Type}
    (check : Bytes → Except Kem.Refusal value)
    (world : World)
    (path : Path)
    (found : value) : Prop :=
  ∃ text bytes, world.store.readText world.here path = .ok text ∧
    Base64.decode (keyText text) = .ok bytes ∧ check bytes = .ok found

section Loads

variable {value : Type} {check : Bytes → Except Kem.Refusal value} {world : World} {path : Path}
  {found : value}

/-- The key in a file is the one that was written there. -/
theorem loads_of_readText
    {key : Bytes}
    (held : world.store.readText world.here path = .ok (keyFileText key))
    (checked : check key = .ok found) :
    Loads check world path found := by
  refine ⟨_, key, held, ?_, checked⟩
  rw [keyFileText, keyText_line, Base64.decode_encode]

theorem Loads.check_eq
    (loads : Loads check world path found)
    {key : Bytes}
    (held : world.store.readText world.here path = .ok (keyFileText key)) :
    check key = .ok found := by
  obtain ⟨text, bytes, reads, decoded, checked⟩ := loads
  cases held.symm.trans reads
  rw [keyFileText, keyText_line, Base64.decode_encode] at decoded
  cases decoded
  exact checked

/-- Loading a key, with what is made of each fault. -/
def loadKey
    (unreadable : IoError → Failure)
    (undecoded : Base64.DecodeError → Failure)
    (refused : Kem.Refusal → Failure)
    (check : Bytes → Except Kem.Refusal value)
    (path : Path) :
    Action Failure value := do
  let text ← Action.withCause unreadable <| Action.ask fun store here => store.readText here path
  Action.ofExcept do
    let bytes ← (Base64.decode (keyText text)).mapError undecoded
    (check bytes).mapError refused

variable {unreadable : IoError → Failure} {undecoded : Base64.DecodeError → Failure}
  {refused : Kem.Refusal → Failure}

theorem loadKey_unchanged (world : World) :
    (loadKey unreadable undecoded refused check path world).2 = world := by
  have keeps : Action.Keeps (fun world after => after = world)
      (loadKey unreadable undecoded refused check path) := by
    apply Action.Keeps.bind
    · intro first second third same sameAgain
      exact sameAgain.trans same
    · intro world
      rfl
    · intro text world
      rfl
  exact keeps world

theorem loadKey_eq_ok_iff {after : World} :
    loadKey unreadable undecoded refused check path world = (.ok found, after) ↔
      Loads check world path found ∧ after = world := by
  constructor
  · intro succeeds
    have unchanged := (congrArg Prod.snd succeeds).symm.trans (loadKey_unchanged world)
    obtain ⟨text, between, asked, checked⟩ := Action.bind_eq_ok_iff.mp succeeds
    rw [Action.withCause_eq_ok_iff, Action.ask_eq_ok_iff] at asked
    obtain ⟨bytes, decoded, checked⟩ := exists_of_bind_eq_ok (congrArg Prod.fst checked)
    exact ⟨⟨text, bytes, asked.1, mapError_eq_ok decoded, mapError_eq_ok checked⟩, unchanged⟩
  · rintro ⟨⟨text, bytes, held, decoded, checked⟩, rfl⟩
    unfold loadKey
    rw [Action.bind_of_ok (askText_of_readText _ held), decoded]
    unfold Action.ofExcept
    simp only [Except.mapError, bind, Except.bind, checked]

end Loads

theorem loadPublicKey_unchanged (path : Path) (world : World) :
    (loadPublicKey path world).2 = world :=
  loadKey_unchanged world

theorem loadPublicKey_eq_ok_iff
    {path : Path}
    {world after : World}
    {encapsulator : Kem.Encapsulator} :
    loadPublicKey path world = (.ok encapsulator, after) ↔
      Loads Kem.Encapsulator.ofBytes world path encapsulator ∧ after = world :=
  loadKey_eq_ok_iff

theorem loadPrivateKey_eq_ok_iff
    {path : Path}
    {world after : World}
    {decapsulator : Kem.Decapsulator} :
    loadPrivateKey path world = (.ok decapsulator, after) ↔
      Loads Kem.Decapsulator.ofSeed world path decapsulator ∧ after = world :=
  loadKey_eq_ok_iff

theorem loadPrivateKey_apply
    {path : Path}
    {seed : Bytes}
    {world : World}
    (held : world.store.readText world.here path = .ok (keyFileText seed)) :
    loadPrivateKey path world =
      ((Kem.Decapsulator.ofSeed seed).mapError
        fun refusal => Failure.invalidPrivateKey path.display refusal.message, world) := by
  unfold loadPrivateKey
  rw [Action.bind_of_ok (askText_of_readText _ held)]
  unfold Action.ofExcept keyFileText
  rw [keyText_line, Base64.decode_encode]
  rfl

/-- The private key that the text of a file stands for; `shown` names the file in failures. -/
def privateKeyOf (shown : String) (text : Except IoError String) :
    Except Failure Kem.Decapsulator := do
  let text ← text.mapError (.privateKeyFileUnreadable shown)
  let seed ← (Base64.decode (keyText text)).mapError (.invalidPrivateKeyBase64 shown)
  (Kem.Decapsulator.ofSeed seed).mapError fun refusal =>
    .invalidPrivateKey shown refusal.message

/-- Loading a key is reading a file, and changes nothing. -/
theorem loadPrivateKey_eq (path : Path) (world : World) :
    loadPrivateKey path world =
      (privateKeyOf path.display (world.store.readText world.here path), world) := by
  have asked : Action.withCause (Failure.privateKeyFileUnreadable path.display)
      (Action.ask fun store here => store.readText here path) world =
        ((world.store.readText world.here path).mapError
          (Failure.privateKeyFileUnreadable path.display), world) := rfl
  unfold loadPrivateKey privateKeyOf
  cases held : world.store.readText world.here path with
  | error cause =>
      rw [held] at asked
      rw [Action.bind_of_error asked]
      rfl
  | ok text =>
      rw [held] at asked
      rw [Action.bind_of_ok asked]
      rfl

/-- Holds of the failures of a key file, each of which names it. -/
inductive KeyFileFault (shown : String) : Failure → Prop where
  | unreadable (cause : IoError) : KeyFileFault shown (.privateKeyFileUnreadable shown cause)
  | undecoded (source : Base64.DecodeError) :
      KeyFileFault shown (.invalidPrivateKeyBase64 shown source)
  | refused (cause : String) : KeyFileFault shown (.invalidPrivateKey shown cause)

theorem keyFileFault_of_privateKeyOf
    {shown : String}
    {text : Except IoError String}
    {failure : Failure}
    (fails : privateKeyOf shown text = .error failure) :
    KeyFileFault shown failure := by
  unfold privateKeyOf at fails
  cases text with
  | error cause =>
      cases fails
      exact .unreadable cause
  | ok text =>
      simp only [Except.mapError, bind, Except.bind] at fails
      cases decoded : Base64.decode (keyText text) with
      | error source =>
          rw [decoded] at fails
          cases fails
          exact .undecoded source
      | ok seed =>
          rw [decoded] at fails
          simp only [] at fails
          cases loaded : Kem.Decapsulator.ofSeed seed with
          | error refusal =>
              rw [loaded] at fails
              cases fails
              exact .refused _
          | ok decapsulator =>
              rw [loaded] at fails
              contradiction

/-- A seed that was drawn is one that can be loaded. -/
theorem ofSeed_of_generate
    {tape : Tape}
    {pair : Kem.KeyPair}
    (generated : (Kem.generate tape).1 = .ok pair) :
    Kem.Decapsulator.ofSeed pair.seed = .ok (Kem.expandSeed pair.seed) := by
  obtain ⟨enough, isPair⟩ := Kem.generate_eq_ok generated
  have isSeed : pair.seed.length = Kem.seedLength := by
    rw [isPair]
    exact List.length_take_of_le enough
  unfold Kem.Decapsulator.ofSeed
  rw [if_neg (not_not_intro isSeed)]

/-- The name of a key file counts for the failures alone. -/
theorem toOption_privateKeyOf (shown other : String) (text : Except IoError String) :
    (privateKeyOf shown text).toOption = (privateKeyOf other text).toOption := by
  unfold privateKeyOf
  cases text with
  | error cause => rfl
  | ok text =>
      simp only [Except.mapError, bind, Except.bind]
      cases Base64.decode (keyText text) with
      | error cause => rfl
      | ok seed =>
          simp only []
          cases Kem.Decapsulator.ofSeed seed <;> rfl

/-! ## Entries -/

theorem selection_nil (entries : EnvMap) :
    selection entries [] =
      (entries.entries.filter fun entry => Envelope.isSealed entry.2).map Prod.fst :=
  rfl

theorem selection_of_ne_nil {requested : List String} (filled : requested ≠ []) (entries : EnvMap) :
    selection entries requested = requested.eraseDups := by
  unfold selection
  rw [if_neg (by simpa using filled)]

theorem mem_keys_of_mem_selection_nil
    {entries : EnvMap}
    {key : String}
    (chosen : key ∈ selection entries []) :
    key ∈ entries.keys := by
  obtain ⟨entry, kept, rfl⟩ := List.mem_map.mp chosen
  exact List.mem_map_of_mem (List.mem_of_mem_filter kept)

theorem missing_eq_nil
    {entries : EnvMap}
    {keys : List String}
    (present : ∀ key ∈ keys, key ∈ entries.keys) :
    missing entries keys = [] := by
  have kept : keys.filter (fun key => !entries.contains key) = [] := by
    rw [List.filter_eq_nil_iff]
    intro key member
    simp [(entries.contains_eq_true_iff key).mpr (present key member)]
  unfold missing
  rw [kept]
  rfl

/-- Where no chosen key is missing, the chosen keys are unsealed in their order. -/
theorem unsealEntries_of_present
    {entries : EnvMap}
    {requested : List String}
    (present : ∀ key ∈ selection entries requested, key ∈ entries.keys)
    (origin : String)
    (decapsulator : Kem.Decapsulator) :
    unsealEntries origin entries requested decapsulator =
      (unsealAll entries decapsulator (selection entries requested)).map fun pairs =>
        ⟨selection entries requested, .ofList pairs⟩ := by
  have noneMissing := missing_eq_nil present
  unfold unsealEntries
  simp only [noneMissing]
  cases selection entries requested with
  | nil => rfl
  | cons key rest =>
      cases unsealAll entries decapsulator (key :: rest) with
      | error failure => rfl
      | ok pairs => rfl

/-- Without a request no key is missing, and the origin of the entries counts for nothing. -/
theorem unsealEntries_nil_congr
    (origin other : String)
    (entries : EnvMap)
    (decapsulator : Kem.Decapsulator) :
    unsealEntries origin entries [] decapsulator = unsealEntries other entries [] decapsulator := by
  have present : ∀ key ∈ selection entries [], key ∈ entries.keys :=
    fun _ => mem_keys_of_mem_selection_nil
  rw [unsealEntries_of_present present, unsealEntries_of_present present]

/-- Holds of a key under which a value is stored, and of what that value is opened to. -/
def OpensKey (entries : EnvMap) (decapsulator : Kem.Decapsulator) (key plaintext : String) : Prop :=
  ∃ stored, entries.get? key = some stored ∧ unsealValue key stored decapsulator = .ok plaintext

/-- Holds of the map of what some keys are opened to, which has no others. -/
structure GivesAll
    (entries : EnvMap)
    (decapsulator : Kem.Decapsulator)
    (keys : List String)
    (values : EnvMap) : Prop where
  opens : ∀ key ∈ keys, ∃ plaintext,
    values.get? key = some plaintext ∧ OpensKey entries decapsulator key plaintext
  noOther : ∀ key, key ∉ keys → values.get? key = none

/-- Keys that are opened one by one are opened together. -/
theorem unsealAll_of_opens
    {entries : EnvMap}
    {decapsulator : Kem.Decapsulator}
    {plaintextOf : String → String}
    {keys : List String}
    (opens : ∀ key ∈ keys, OpensKey entries decapsulator key (plaintextOf key)) :
    unsealAll entries decapsulator keys = .ok (keys.map fun key => (key, plaintextOf key)) := by
  induction keys with
  | nil => rfl
  | cons key rest inductionHypothesis =>
      obtain ⟨stored, found, unsealed⟩ := opens key List.mem_cons_self
      have restOpens := inductionHypothesis fun other member =>
        opens other (List.mem_cons_of_mem key member)
      rw [unsealAll, found, Option.getD_some, unsealed, restOpens]
      rfl

namespace GivesAll

variable {entries values : EnvMap} {decapsulator : Kem.Decapsulator} {keys : List String}

theorem present
    (gives : GivesAll entries decapsulator keys values)
    {key : String}
    (member : key ∈ keys) :
    key ∈ entries.keys := by
  obtain ⟨_, _, stored, found, _⟩ := gives.opens key member
  exact (entries.mem_keys_iff key).mpr ⟨stored, found⟩

theorem ofList_eq (gives : GivesAll entries decapsulator keys values) :
    EnvMap.ofList (keys.map fun key => (key, (values.get? key).getD "")) = values := by
  apply EnvMap.ext
  intro key
  rw [EnvMap.get?_ofList_map]
  split
  · rename_i member
    obtain ⟨plaintext, given, _⟩ := gives.opens key member
    rw [given, Option.getD_some]
  · rename_i absent
    rw [gives.noOther key absent]

theorem unsealAll_eq (gives : GivesAll entries decapsulator keys values) :
    unsealAll entries decapsulator keys =
      .ok (keys.map fun key => (key, (values.get? key).getD "")) := by
  apply unsealAll_of_opens
  intro key member
  obtain ⟨plaintext, given, opened⟩ := gives.opens key member
  rw [given]
  exact opened

/-- Chosen keys that are all opened are given in the order of their choice. -/
theorem unsealEntries_eq
    {requested : List String}
    (gives : GivesAll entries decapsulator (selection entries requested) values)
    (origin : String) :
    unsealEntries origin entries requested decapsulator =
      .ok ⟨selection entries requested, values⟩ := by
  rw [unsealEntries_of_present (fun _ => gives.present), gives.unsealAll_eq, Except.map,
    gives.ofList_eq]

end GivesAll

/-- Holds if every entry of a map is a sealed value that a key opens to the plaintext of the same
name in another map, which has no others. -/
def OpensTo (entries plain : EnvMap) (decapsulator : Kem.Decapsulator) : Prop :=
  ∀ key, match entries.get? key with
    | some value => Envelope.isSealed value = true ∧ ∃ plaintext,
        plain.get? key = some plaintext ∧ unsealValue key value decapsulator = .ok plaintext
    | none => plain.get? key = none

namespace OpensTo

variable {entries plain : EnvMap} {decapsulator : Kem.Decapsulator}

theorem exists_of_mem_keys
    (opens : OpensTo entries plain decapsulator)
    {key : String}
    (member : key ∈ entries.keys) :
    ∃ value plaintext, entries.get? key = some value ∧ Envelope.isSealed value = true ∧
      plain.get? key = some plaintext ∧ unsealValue key value decapsulator = .ok plaintext := by
  obtain ⟨value, found⟩ := (entries.mem_keys_iff key).mp member
  have opened := opens key
  rw [found] at opened
  obtain ⟨isSealed, plaintext, plainFound, unsealed⟩ := opened
  exact ⟨value, plaintext, found, isSealed, plainFound, unsealed⟩

theorem get?_eq_none_of_not_mem
    (opens : OpensTo entries plain decapsulator)
    {key : String}
    (absent : key ∉ entries.keys) :
    plain.get? key = none := by
  have opened := opens key
  cases held : entries.get? key with
  | none => rwa [held] at opened
  | some value =>
      apply absurd _ absent
      exact (entries.mem_keys_iff key).mpr ⟨value, held⟩

theorem selection_nil (opens : OpensTo entries plain decapsulator) :
    selection entries [] = entries.keys := by
  have all : entries.entries.filter (fun entry => Envelope.isSealed entry.2) =
      entries.entries := by
    rw [List.filter_eq_self]
    intro entry member
    have opened := opens entry.1
    rw [(entries.mem_entries_iff entry).mp member] at opened
    exact opened.1
  rw [Vault.selection_nil, all]
  rfl

/-- Keys that are there are unsealed in the order in which they are chosen, each to its
plaintext. -/
theorem unsealEntries_eq
    (opens : OpensTo entries plain decapsulator)
    (origin : String)
    {requested : List String}
    (present : ∀ key ∈ selection entries requested, key ∈ entries.keys) :
    ∃ values, unsealEntries origin entries requested decapsulator =
        .ok ⟨selection entries requested, values⟩ ∧
      ∀ key, values.get? key =
        if key ∈ selection entries requested then plain.get? key else none := by
  let values := EnvMap.ofList ((selection entries requested).map fun key =>
    (key, (plain.get? key).getD ""))
  have found (key : String) : values.get? key =
      if key ∈ selection entries requested then plain.get? key else none := by
    rw [EnvMap.get?_ofList_map]
    split
    · rename_i chosen
      obtain ⟨_, plaintext, _, _, plainFound, _⟩ := opens.exists_of_mem_keys (present key chosen)
      rw [plainFound, Option.getD_some]
    · rfl
  have gives : GivesAll entries decapsulator (selection entries requested) values := by
    constructor
    · intro key chosen
      obtain ⟨stored, plaintext, held, _, plainFound, unsealed⟩ :=
        opens.exists_of_mem_keys (present key chosen)
      refine ⟨plaintext, ?_, stored, held, unsealed⟩
      rw [found, if_pos chosen, plainFound]
    · intro key notChosen
      rw [found, if_neg notChosen]
  exact ⟨values, gives.unsealEntries_eq origin, found⟩

/-- Without a request every plaintext is given, in the order of the keys. -/
theorem unsealEntries_nil (opens : OpensTo entries plain decapsulator) (origin : String) :
    unsealEntries origin entries [] decapsulator = .ok ⟨entries.keys, plain⟩ := by
  have all := opens.selection_nil
  have present : ∀ key ∈ selection entries [], key ∈ entries.keys := by
    rw [all]
    intro key member
    exact member
  obtain ⟨values, result, found⟩ := opens.unsealEntries_eq origin present
  rw [all] at result found
  have whole : values = plain := by
    apply EnvMap.ext
    intro key
    rw [found]
    by_cases held : key ∈ entries.keys
    · rw [if_pos held]
    · rw [if_neg held, opens.get?_eq_none_of_not_mem held]
  rw [result, whole]

/-- On request the plaintexts that are asked for are given, each key at its first place. -/
theorem unsealEntries_requested
    (opens : OpensTo entries plain decapsulator)
    (origin : String)
    {requested : List String}
    (filled : requested ≠ [])
    (present : ∀ key ∈ requested, key ∈ entries.keys) :
    ∃ values, unsealEntries origin entries requested decapsulator =
        .ok ⟨requested.eraseDups, values⟩ ∧
      ∀ key, values.get? key = if key ∈ requested then plain.get? key else none := by
  have chosen : selection entries requested = requested.eraseDups :=
    selection_of_ne_nil filled entries
  have chosenPresent : ∀ key ∈ selection entries requested, key ∈ entries.keys := by
    rw [chosen]
    intro key member
    exact present key (List.mem_eraseDups.mp member)
  obtain ⟨values, result, found⟩ := opens.unsealEntries_eq origin chosenPresent
  rw [chosen] at result found
  refine ⟨values, result, fun key => ?_⟩
  rw [found]
  simp only [List.mem_eraseDups]

end OpensTo

/-- What a key opens the entries of a map to; those that it does not open become empty. -/
def openedAll (entries : EnvMap) (decapsulator : Kem.Decapsulator) : EnvMap :=
  .ofList (entries.keys.map fun key =>
    (key, ((unsealValue key ((entries.get? key).getD "") decapsulator).toOption).getD ""))

theorem get?_openedAll
    {entries : EnvMap}
    {decapsulator : Kem.Decapsulator}
    {key value plaintext : String}
    (found : entries.get? key = some value)
    (seals : Seals decapsulator plaintext value) :
    (openedAll entries decapsulator).get? key = some plaintext := by
  have present : key ∈ entries.keys := (entries.mem_keys_iff key).mpr ⟨value, found⟩
  unfold openedAll
  rw [EnvMap.get?_ofList_map, if_pos present, found, Option.getD_some, seals.unsealValue]
  rfl

theorem mem_keys_openedAll_iff
    {entries : EnvMap}
    {decapsulator : Kem.Decapsulator}
    {key : String} :
    key ∈ (openedAll entries decapsulator).keys ↔ key ∈ entries.keys := by
  unfold openedAll
  rw [EnvMap.mem_keys_ofList_iff, List.map_map]
  simp

/-- Values that were sealed for a key are all opened by it. -/
theorem opensTo_openedAll
    {entries : EnvMap}
    {decapsulator : Kem.Decapsulator}
    (sealed : ∀ key value, entries.get? key = some value →
      ∃ plaintext, Seals decapsulator plaintext value) :
    OpensTo entries (openedAll entries decapsulator) decapsulator := by
  intro key
  cases found : entries.get? key with
  | none =>
      have absent : key ∉ entries.keys := by
        intro present
        obtain ⟨value, held⟩ := (entries.mem_keys_iff key).mp present
        rw [found] at held
        contradiction
      unfold openedAll
      rw [EnvMap.get?_ofList_map, if_neg absent]
  | some value =>
      obtain ⟨plaintext, seals⟩ := sealed key value found
      exact ⟨seals.isSealed, plaintext, get?_openedAll found seals, seals.unsealValue key⟩

/-! ## Sources -/

/-- The entries of a file are those that its text denotes, and a missing file has none. -/
theorem entries_file
    {path : Path}
    {text : String}
    {world : World}
    (held : world.store.readText world.here path = .ok text ∨
      (text = "" ∧ world.store.readText world.here path = .error (.os .noEntry))) :
    (Source.file path).entries world = (.ok (EnvFile.parse text), world) := by
  unfold Source.entries
  rw [Action.withCause_eq_ok_iff]
  exact Action.bind_of_ok (EnvFile.storedText_apply held) _

/-- Looking for entries changes nothing. -/
theorem Source.entries_apply (source : Source) (world : World) :
    source.entries world = ((source.entries world).1, world) := by
  cases source with
  | map entries => rfl
  | file path =>
      show Action.withCause _ (EnvFile.load path) world =
        ((Action.withCause _ (EnvFile.load path) world).1, world)
      unfold Action.withCause
      rw [EnvFile.load_apply]

/-- Unsealing is loading a key, then looking for the entries of a source, and then opening them, and
changes nothing. -/
theorem unsealSource_eq
    (source : Source)
    (privateKeyPath : Path)
    (requested : List String)
    (world : World) :
    unsealSource source privateKeyPath requested world =
      ((loadPrivateKey privateKeyPath world).1.bind fun decapsulator =>
        (source.entries world).1.bind fun entries =>
          unsealEntries source.origin entries requested decapsulator, world) := by
  have loaded : loadPrivateKey privateKeyPath world =
      ((loadPrivateKey privateKeyPath world).1, world) := by
    rw [loadPrivateKey_eq]
  have looked := source.entries_apply world
  unfold unsealSource
  generalize (loadPrivateKey privateKeyPath world).1 = key at loaded
  cases key with
  | error failure =>
      rw [Action.bind_of_error loaded]
      rfl
  | ok decapsulator =>
      rw [Action.bind_of_ok loaded]
      generalize (source.entries world).1 = held at looked
      cases held with
      | error failure =>
          rw [Action.bind_of_error looked]
          rfl
      | ok entries =>
          rw [Action.bind_of_ok looked]
          rfl

/-- Unsealing entries that are found is loading a key and opening them. -/
theorem unsealSource_apply
    {source : Source}
    {entries : EnvMap}
    {world : World}
    (held : source.entries world = (.ok entries, world))
    (privateKeyPath : Path)
    (requested : List String) :
    unsealSource source privateKeyPath requested world =
      ((privateKeyOf privateKeyPath.display
        (world.store.readText world.here privateKeyPath)).bind
          (unsealEntries source.origin entries requested), world) := by
  rw [unsealSource_eq, loadPrivateKey_eq, held]
  rfl

namespace Zeros

/-- A world with the key of the seed in `k`. -/
def keyWorld : World :=
  { (default : World) with
    store := Store.empty.insert [[107]] (.file 0o600 (Utf8.encode (keyFileText seed))) }

theorem loads_keyWorld : (loadPrivateKey [107] keyWorld).1 = .ok (Kem.expandSeed seed) := by
  have held : keyWorld.store.readText keyWorld.here [107] = .ok (keyFileText seed) := by
    decide +kernel
  rw [loadPrivateKey_apply held]
  rfl

end Zeros

end SealedEnv.Vault
