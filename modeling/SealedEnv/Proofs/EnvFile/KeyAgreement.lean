import SealedEnv.Proofs.EnvFile.Locality
import SealedEnv.Proofs.EnvFile.RoundTrip
import SealedEnv.Proofs.Pattern.Grammars

/-!
Contract: the requested names are just the keys that an env file can have.

Owns:
- the law that every key of a text is a requested name;
- the map of the line that sets a requested name to letters and digits;
- the law that any other name does not survive such a line;
- the agreement of the grammars, which stand for the patterns that they are written as.

Does not own: how values are written that are not letters and digits.
-/

namespace SealedEnv.EnvFile

open Text

/-! ## Keys of texts -/

theorem isRequestKey_of_keyOf?
    {line : Line}
    {key : String}
    (sets : keyOf? line = some key) :
    isRequestKey key = true := by
  obtain ⟨parts⟩ := keyOf?_eq_some_iff.mp sets
  exact parts.validKey

theorem isRequestKey_of_mem_keys_parse
    {text key : String}
    (member : key ∈ (parse text).keys) :
    isRequestKey key = true := by
  obtain ⟨line, -, sets⟩ := (mem_keys_parse_iff text key).mp member
  exact isRequestKey_of_keyOf? sets

/-! ## Letters and digits -/

/-- The characters of names need no quotes where they stand in a value. -/
theorem needsQuotes_of_continuesRequest
    {c : Char}
    (continues : KeyName.continuesRequest c = true) :
    needsQuotes c = false := by
  cases quotes : needsQuotes c with
  | false => rfl
  | true =>
      simp only [needsQuotes, Bool.or_eq_true, beq_iff_eq] at quotes
      rcases quotes with (((((rfl | rfl) | rfl) | rfl) | rfl) | rfl) | rfl
      all_goals exact absurd continues (by decide)

section Plain

variable {value : String} (plain : value.toList.all Char.isAlphanum = true)

include plain

theorem continuesRequest_of_mem_plain
    {c : Char}
    (member : c ∈ value.toList) :
    KeyName.continuesRequest c = true := by
  rw [KeyName.continuesRequest, List.all_eq_true.mp plain c member, Bool.true_or]

/-- Letters and digits are written as they are. -/
theorem isBare_of_plain : isBare value.toList = true := by
  rw [isBare, Bool.not_eq_true', List.any_eq_false]
  intro c member
  have continues := continuesRequest_of_mem_plain plain member
  have notFeed : c ≠ '\n' := by
    rintro rfl
    exact absurd continues (by decide)
  rw [needsQuotes_of_continuesRequest continues, Bool.or_false, beq_iff_eq]
  exact notFeed

theorem readBack_of_plain : readBack value = value := by
  apply readBack_of_hasPlainEnds
  apply hasPlainEnds_of_noBlank
  rw [List.all_eq_true]
  intro c member
  rw [KeyName.isBlank_of_continuesRequest (continuesRequest_of_mem_plain plain member)]
  rfl

/-- A line that sets a requested name to letters and digits denotes just that. -/
theorem parse_assignment
    {name : String}
    (validName : isRequestKey name = true) :
    parse (name ++ "=" ++ value) = EnvMap.ofList [(name, value)] := by
  have written : printEntry name value = name ++ "=" ++ value := by
    rcases writtenValue_cases value.toList with ⟨-, asItIs⟩ | ⟨notBare, -⟩ | ⟨notBare, -⟩
    · rw [printEntry, asItIs, String.ofList_toList]
    · rw [isBare_of_plain plain] at notBare
      contradiction
    · rw [isBare_of_plain plain] at notBare
      contradiction
  rw [← written, parse_printEntry validName, readBack_of_plain plain]

/-- A name is a requested one exactly if it is read back from a line that sets it. -/
theorem isRequestKey_iff_parse_assignment (name : String) :
    isRequestKey name = true ↔
      parse (name ++ "=" ++ value) = EnvMap.ofList [(name, value)] := by
  constructor
  · exact parse_assignment plain
  · intro denotes
    have isKey : name ∈ (parse (name ++ "=" ++ value)).keys := by
      rw [denotes, EnvMap.mem_keys_ofList_iff]
      exact List.mem_singleton_self name
    exact isRequestKey_of_mem_keys_parse isKey

end Plain

/-! ## The grammars and the reader -/

/-- The grammars of names agree with what is read of an env file.  A stored name may be asked for.
A name may be asked for exactly if the line that sets it, to letters and digits, is read as just
that.  And whatever text is read, its keys may be asked for.  The grammars of names and of entry
lines are those of the patterns they are written as. -/
theorem key_grammars_agree :
    (∀ name, isStoredKey name = true → isRequestKey name = true) ∧
      (∀ name value : String, value.toList.all Char.isAlphanum = true →
        (isRequestKey name = true ↔
          parse (name ++ "=" ++ value) = EnvMap.ofList [(name, value)])) ∧
      (∀ text, ∀ key ∈ (parse text).keys, isRequestKey key = true) ∧
      (∃ pattern, Pattern.ofString? "^[A-Z][A-Z0-9_]*$" = some pattern ∧
        ∀ name, isStoredKey name = pattern.occursIn name) ∧
      (∃ pattern, Pattern.ofString? "^[A-Za-z_][A-Za-z0-9_]*$" = some pattern ∧
        ∀ name, isRequestKey name = pattern.occursIn name) ∧
      ∃ pattern,
        Pattern.ofString? "^\\s*([A-Za-z_][A-Za-z0-9_]*)\\s*([:=])\\s*(.*)$" = some pattern ∧
          ∀ line, '\n' ∉ line → isEntryLine line = pattern.occursIn (String.ofList line) := by
  refine ⟨?_, ?_, ?_, isStoredKey_eq_occursIn, isRequestKey_eq_occursIn, isEntryLine_eq_occursIn⟩
  · intro name stored
    exact isRequestKey_of_isStoredKey stored
  · intro name value plain
    exact isRequestKey_iff_parse_assignment plain name
  · intro text key member
    exact isRequestKey_of_mem_keys_parse member

/-- A name with a line feed in it, whose last line is a name, and a key after a quote that is left
open. -/
theorem key_grammars_agree_feed :
    isStoredKey "K_1" = true ∧ isRequestKey "K_1" = true ∧
      "v1".toList.all Char.isAlphanum = true ∧
      parse ("_k9" ++ "=" ++ "v1") = EnvMap.ofList [("_k9", "v1")] ∧
      parse ("A:\nB" ++ "=" ++ "v1") ≠ EnvMap.ofList [("A:\nB", "v1")] ∧
      "C" ∈ (parse "A='\n\u00a0C\u2003: 1").keys ∧ isRequestKey "C" = true := by
  obtain ⟨nested, readBack, keys, -⟩ := key_grammars_agree
  have stored : isStoredKey "K_1" = true := by decide
  have plain : "v1".toList.all Char.isAlphanum = true := by decide
  have invalid : ¬isRequestKey "A:\nB" = true := by decide
  have isKey : "C" ∈ (parse "A='\n\u00a0C\u2003: 1").keys := by
    rw [mem_keys_parse_iff]
    exact ⟨"\u00a0C\u2003: 1".toList, by decide, by decide⟩
  exact ⟨stored, nested "K_1" stored, plain, (readBack "_k9" "v1" plain).mp (by decide),
    fun same => invalid ((readBack "A:\nB" "v1" plain).mpr same), isKey, keys _ "C" isKey⟩

end SealedEnv.EnvFile
