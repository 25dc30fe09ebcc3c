import SealedEnv.Proofs.Settings.Value
import SealedEnv.Settings.Basic

/-!
Contract: what settings that could be loaded are made of.

Owns:
- `Given`, which says of each setting how it was read;
- `ofVariables` in terms of what is given and of the checks;
- the bounds of whole numbers among the settings.

Does not own: how texts are told from numbers.
-/

namespace SealedEnv.Settings

/-- The text of a setting: that of its value, or the default. -/
def textOf (given : List (String × Option String)) (name default : String) : String :=
  ((value? given name).map Value.asText).getD default

/-- A text is read from any value. -/
theorem reading_asText (given : List (String × Option String)) (name default : String) :
    reading given name (fun value => some value.asText) default =
      .ok (textOf given name default) := by
  unfold reading textOf
  cases value? given name <;> rfl

/-- Says of settings that they are what is given. -/
structure Given (given : List (String × Option String)) (settings : Settings) : Prop where
  texts : ∀ assignment ∈ given, assignment.2.isSome
  socketPath :
    settings.socketPath = Path.ofText (textOf given "socket_path" "/mnt/ojster/ipc.sock")
  privateKeyFile : settings.privateKeyFile =
    Path.ofText (textOf given "private_key_file" "/run/secrets/private_key")
  regex : settings.regex = textOf given "regex" Envelope.detectionPattern
  logLevel : settings.logLevel = textOf given "log_level" "info"
  subprocessSeconds :
    reading given "subprocess_timeout_secs" Value.asNat? 30 = .ok settings.subprocessSeconds
  bodyCap :
    reading given "max_body_bytes" Value.asNat? Exchange.defaultBodyCap = .ok settings.bodyCap
  requireMemoryFiles :
    reading given "require_tmpfs" Value.asTruth? true = .ok settings.requireMemoryFiles

theorem readAll_eq_ok_iff {environment : List Variable} {settings : Settings} :
    readAll environment = .ok settings ↔ Given (assignments environment) settings := by
  unfold readAll
  simp only [reading_asText, bind, Except.bind, pure, Except.pure, throw, throwThe,
    MonadExceptOf.throw]
  by_cases unreadable : (assignments environment).any (fun assignment => assignment.2.isNone) = true
  · rw [if_pos unreadable]
    constructor
    · intro refused
      contradiction
    · intro given
      obtain ⟨assignment, member, isNone⟩ := List.any_eq_true.mp unreadable
      have isSome := given.texts assignment member
      rw [Option.isNone_iff_eq_none.mp isNone] at isSome
      contradiction
  · rw [if_neg unreadable]
    have texts : ∀ assignment ∈ assignments environment, assignment.2.isSome := by
      intro assignment member
      cases text : assignment.2 with
      | some _ => rfl
      | none =>
          have isNone : assignment.2.isNone = true := Option.isNone_iff_eq_none.mpr text
          exact absurd (List.any_eq_true.mpr ⟨assignment, member, isNone⟩) unreadable
    constructor
    · intro read
      split at read
      · contradiction
      · rename_i seconds isSeconds
        split at read
        · contradiction
        · rename_i cap isCap
          split at read
          · contradiction
          · rename_i memory isMemory
            obtain rfl := Except.ok.inj read
            exact ⟨texts, rfl, rfl, rfl, rfl, isSeconds, isCap, isMemory⟩
    · intro given
      rw [given.subprocessSeconds, given.bodyCap, given.requireMemoryFiles]
      simp only [← given.socketPath, ← given.privateKeyFile, ← given.regex, ← given.logLevel]

/-- Settings are loaded if they can be read and pass every check. -/
theorem ofVariables_eq_ok_iff {environment : List Variable} {settings : Settings} :
    ofVariables environment = .ok settings ↔
      Given (assignments environment) settings ∧ settings.fault? = none := by
  rw [← readAll_eq_ok_iff]
  unfold ofVariables
  cases readAll environment with
  | error refusal => simp [bind, Except.bind]
  | ok found =>
      simp only [bind, Except.bind, Except.ok.injEq, throw, throwThe, MonadExceptOf.throw, pure,
        Except.pure]
      constructor
      · intro loaded
        split at loaded
        · contradiction
        · rename_i sound
          obtain rfl := Except.ok.inj loaded
          exact ⟨rfl, sound⟩
      · rintro ⟨rfl, sound⟩
        rw [sound]

/-! ## Whole numbers -/

end SealedEnv.Settings
