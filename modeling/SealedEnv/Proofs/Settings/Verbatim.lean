import SealedEnv.Proofs.Settings.Loading

/-!
Contract: which texts are kept by a setting, which takes every text for a value first.

Owns:
- `Verbatim`, the texts that the value they are taken for is printed as, among them all in which
  some letter occurs in no number and no truth word;
- the settings that are texts, and what they are once the settings are loaded.

Does not own: what a text is taken for, and how numbers with a point or an exponent are printed.
-/

namespace SealedEnv.Settings

/-! ## Texts that are kept -/

/-- Holds of the texts that are printed as they were read. -/
inductive Verbatim : String → Prop where
  /-- A truth word in small letters. -/
  | truth (holds : Bool) : Verbatim (toString holds)
  /-- A whole number of sixty-four bits without a plus sign and without needless zeros. -/
  | integer
    {text : String}
    {number : Int}
    (reads : Number.integer? text.toList = some number)
    (plain : Number.IsInteger text.toList) :
    Verbatim text
  /-- Another number in the form that it is printed in. -/
  | real
    (number : Number.Binary64)
    (reads : Value.guess number.text = .real number) :
    Verbatim number.text
  /-- What is neither a truth word nor a number. -/
  | text
    {held : String}
    (reads : Value.guess held = .text held) :
    Verbatim held

theorem asText_guess_eq_iff {text : String} : (Value.guess text).asText = text ↔ Verbatim text := by
  constructor
  · intro kept
    cases reads : Value.guess text with
    | truth holds =>
        rw [reads] at kept
        have isWord : text = toString holds := by
          rw [← kept]
          cases holds <;> rfl
        rw [isWord]
        exact .truth holds
    | integer number =>
        rw [reads] at kept
        have isInteger := guess_eq_integer_iff.mp reads
        exact .integer isInteger ((Number.toString_eq_iff isInteger).mp kept)
    | real number =>
        rw [reads] at kept
        obtain rfl : number.text = text := kept
        exact .real number reads
    | text held =>
        obtain rfl := eq_of_guess_eq_text reads
        exact .text reads
  · intro verbatim
    cases verbatim with
    | truth holds => cases holds <;> decide
    | integer reads plain =>
        rw [guess_eq_integer_iff.mpr reads]
        exact (Number.toString_eq_iff reads).mpr plain
    | real number reads =>
        rw [reads]
        rfl
    | text reads =>
        rw [reads]
        rfl

theorem verbatim_of_foreign
    {text : String}
    {c : Char}
    (member : c ∈ text.toList)
    (foreign : Number.isValueLetter c = false) :
    Verbatim text :=
  .text (guess_of_foreign member foreign)

/-! ## The settings that are texts -/

inductive TextSetting where
  | socketPath
  | privateKeyFile
  | regex
  | logLevel
deriving DecidableEq

namespace TextSetting

/-- The variable that a setting is given with. -/
def variableName : TextSetting → String
  | socketPath => "OJSTER_SOCKET_PATH"
  | privateKeyFile => "OJSTER_PRIVATE_KEY_FILE"
  | regex => "OJSTER_REGEX"
  | logLevel => "OJSTER_LOG_LEVEL"

def name : TextSetting → String
  | socketPath => "socket_path"
  | privateKeyFile => "private_key_file"
  | regex => "regex"
  | logLevel => "log_level"

/-- The bytes of the field that a setting ends up in. -/
def field (settings : Settings) : TextSetting → Bytes
  | socketPath => settings.socketPath
  | privateKeyFile => settings.privateKeyFile
  | regex => Utf8.encode settings.regex
  | logLevel => Utf8.encode settings.logLevel

/-- The text that an environment gives to a setting last.  The letters of the variable's name may
be of either case, so that there can be several. -/
def last? (setting : TextSetting) (environment : List Variable) : Option String :=
  ((assignments environment).reverse.lookup setting.name).join

variable {setting : TextSetting} {environment : List Variable} {settings : Settings}

theorem assignment?_variableName (setting : TextSetting) (text : String) :
    assignment? (Utf8.encode setting.variableName, Utf8.encode text) =
      some (setting.name, some text) := by
  unfold assignment?
  rw [Utf8.decode?_encode, Utf8.decode?_encode]
  cases setting <;> rfl

theorem field_eq
    (given : Given (assignments environment) settings)
    {last : String}
    (isLast : setting.last? environment = some last) :
    setting.field settings = Utf8.encode (Value.guess last).asText := by
  have value : ∀ default,
      textOf (assignments environment) setting.name default = (Value.guess last).asText := by
    intro default
    unfold textOf value?
    rw [show ((assignments environment).reverse.lookup setting.name).join = some last from isLast]
    rfl
  cases setting with
  | socketPath => exact given.socketPath.trans (congrArg Utf8.encode (value _))
  | privateKeyFile => exact given.privateKeyFile.trans (congrArg Utf8.encode (value _))
  | regex => exact congrArg Utf8.encode (given.regex.trans (value _))
  | logLevel => exact congrArg Utf8.encode (given.logLevel.trans (value _))

/-- A setting that is given has a last text, if all that is given is text. -/
theorem exists_last
    (given : Given (assignments environment) settings)
    {text : String}
    (isGiven : (Utf8.encode setting.variableName, Utf8.encode text) ∈ environment) :
    ∃ last, setting.last? environment = some last := by
  have assigned : (setting.name, some text) ∈ assignments environment :=
    List.mem_filterMap.mpr ⟨_, isGiven, assignment?_variableName setting text⟩
  cases found : (assignments environment).reverse.lookup setting.name with
  | none =>
      have absent := List.lookup_eq_none_iff.mp found _ (List.mem_reverse.mpr assigned)
      rw [bne_self_eq_false] at absent
      contradiction
  | some last =>
      obtain ⟨later, earlier, split, -⟩ := List.lookup_eq_some_iff.mp found
      have member : (setting.name, last) ∈ assignments environment := by
        rw [← List.mem_reverse, split]
        exact List.mem_append_right later List.mem_cons_self
      obtain ⟨text, isText⟩ := Option.isSome_iff_exists.mp (given.texts _ member)
      obtain rfl : last = some text := isText
      exact ⟨text, by rw [last?, found]; rfl⟩

/-- A setting that is given as a text is, once the settings are loaded, what the value that its last
text is taken for is printed as.  So it is the text that was given last exactly if that is a
truth word in small letters, a whole number of sixty-four bits without a plus sign and needless
zeros, another number in the form that it is printed in, or neither a truth word nor a number. -/
theorem field_eq_iff_verbatim
    (setting : TextSetting)
    {environment : List Variable}
    {settings : Settings}
    {text : String}
    (loaded : ofVariables environment = .ok settings)
    (isGiven : (Utf8.encode setting.variableName, Utf8.encode text) ∈ environment) :
    ∃ last, setting.last? environment = some last ∧
      setting.field settings = Utf8.encode (Value.guess last).asText ∧
      (setting.field settings = Utf8.encode text ↔ (Value.guess last).asText = text) ∧
      (last = text → (setting.field settings = Utf8.encode text ↔ Verbatim text)) := by
  obtain ⟨given, -⟩ := ofVariables_eq_ok_iff.mp loaded
  obtain ⟨last, isLast⟩ := exists_last given isGiven
  have field := field_eq given isLast
  have kept : setting.field settings = Utf8.encode text ↔ (Value.guess last).asText = text := by
    rw [field]
    exact ⟨Utf8.encode_injective, congrArg Utf8.encode⟩
  refine ⟨last, isLast, field, kept, ?_⟩
  rintro rfl
  exact kept.trans asText_guess_eq_iff

/-- A path of a socket is kept, as every text with a slash is. -/
theorem field_eq_iff_verbatim_slash :
    ∃ settings, ofVariables
        [(Utf8.encode "OJSTER_SOCKET_PATH", Utf8.encode "/tmp/1e3")] = .ok settings ∧
      settings.socketPath = Utf8.encode "/tmp/1e3" := by
  have loaded : ofVariables [(Utf8.encode "OJSTER_SOCKET_PATH", Utf8.encode "/tmp/1e3")] = .ok
      { socketPath := Path.ofText "/tmp/1e3"
        privateKeyFile := Path.ofText "/run/secrets/private_key"
        regex := Envelope.detectionPattern
        logLevel := "info"
        subprocessSeconds := 30
        bodyCap := Exchange.defaultBodyCap
        requireMemoryFiles := true } := by
    decide +kernel
  have slash : '/' ∈ "/tmp/1e3".toList := by decide
  obtain ⟨last, isLast, -, -, kept⟩ :=
    field_eq_iff_verbatim .socketPath loaded List.mem_cons_self
  have same : last = "/tmp/1e3" := by
    have alone : TextSetting.last? .socketPath
        [(Utf8.encode "OJSTER_SOCKET_PATH", Utf8.encode "/tmp/1e3")] = some "/tmp/1e3" := by
      decide +kernel
    exact Option.some.inj (isLast.symm.trans alone)
  exact ⟨_, loaded, (kept same).mpr (verbatim_of_foreign slash (by decide))⟩

/-- A pattern of digits loses the zeros in front of it. -/
theorem regex_loses_zeros :
    ∃ settings, ofVariables [(Utf8.encode "OJSTER_REGEX", Utf8.encode "007")] = .ok settings ∧
      settings.regex = "7" := by
  have loaded : (ofVariables [(Utf8.encode "OJSTER_REGEX", Utf8.encode "007")]).map
      Settings.regex = .ok "7" := by
    decide +kernel
  cases result : ofVariables [(Utf8.encode "OJSTER_REGEX", Utf8.encode "007")] with
  | error refusal =>
      rw [result] at loaded
      cases loaded
  | ok settings =>
      rw [result] at loaded
      exact ⟨settings, rfl, Except.ok.inj loaded⟩

end TextSetting

end SealedEnv.Settings
