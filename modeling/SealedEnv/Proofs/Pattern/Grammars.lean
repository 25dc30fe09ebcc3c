import SealedEnv.Pattern.Reader
import SealedEnv.Proofs.EnvFile.EntryGrammar
import SealedEnv.Proofs.Pattern.Shapes

/-!
Contract: the grammars of names and of entry lines are the patterns that they are written as.

Owns:
- `namePattern`, found in the names of a grammar and nowhere else;
- the grammars of stored and of requested names in their written form;
- the grammar of entry lines in its written form.

Does not own: what is made of names and lines.
-/

namespace SealedEnv

open Pattern KeyName

/-! ## Names -/

namespace KeyName

/-- The pattern of the texts that are one character of the first class and any number of the
second. -/
def namePattern (starts continues : CharClass) : Pattern :=
  seq (anchor .textStart) (seq (one starts) (seq (rep (one continues) 0 none) (anchor .textEnd)))

theorem namePattern_occursIn (starts continues : CharClass) (name : String) :
    (namePattern starts continues).occursIn name =
      fits starts.contains continues.contains name.toList := by
  have bounded : (namePattern starts continues).isBounded = true := rfl
  rw [Bool.eq_iff_iff, occursIn_iff bounded, namePattern, fitsWithin_whole_iff, fits_iff]
  simp only [fits_one_then_iff, fits_run_then_iff, fits_textEnd_iff]
  constructor
  · intro found
    obtain ⟨_, back, whole, first, _, rfl, isFirst, run, _, rfl, areMembers, rfl, atEnd⟩ := found
    rw [List.head?_eq_none_iff.mp atEnd, List.append_nil, List.append_nil] at whole
    exact ⟨first, run, whole, isFirst, areMembers⟩
  · intro shaped
    obtain ⟨first, rest, whole, isFirst, areMembers⟩ := shaped
    exact ⟨first :: rest, [], by rw [whole, List.append_nil], first, rest, rfl, isFirst, rest, [],
      (List.append_nil rest).symm, areMembers, rfl, rfl⟩

/-! The classes of the written patterns. -/

def storedFirst : CharClass := bracket [('A', 'Z')]

def storedFurther : CharClass := bracket [('A', 'Z'), ('0', '9'), ('_', '_')]

def requestFirst : CharClass := bracket [('A', 'Z'), ('a', 'z'), ('_', '_')]

def requestFurther : CharClass := bracket [('A', 'Z'), ('a', 'z'), ('0', '9'), ('_', '_')]

theorem contains_storedFirst (c : Char) : storedFirst.contains c = startsStored c := by
  rw [Bool.eq_iff_iff, startsStored_iff, storedFirst, contains_bracket]
  simp

theorem contains_storedFurther (c : Char) : storedFurther.contains c = continuesStored c := by
  rw [Bool.eq_iff_iff, continuesStored_iff, storedFurther, contains_bracket]
  simp only [List.any_cons, List.any_nil, Bool.or_false, Bool.or_eq_true, decide_eq_true_eq,
    Char.reduceToNat]
  omega

theorem contains_requestFirst (c : Char) : requestFirst.contains c = startsRequest c := by
  rw [Bool.eq_iff_iff, startsRequest_iff, requestFirst, contains_bracket]
  simp only [List.any_cons, List.any_nil, Bool.or_false, Bool.or_eq_true, decide_eq_true_eq,
    Char.reduceToNat]
  omega

theorem contains_requestFurther (c : Char) : requestFurther.contains c = continuesRequest c := by
  rw [Bool.eq_iff_iff, continuesRequest_iff, requestFurther, contains_bracket]
  simp only [List.any_cons, List.any_nil, Bool.or_false, Bool.or_eq_true, decide_eq_true_eq,
    Char.reduceToNat]
  omega

end KeyName

/-- The grammar of stored names as it is written: its pattern occurs in these names only. -/
theorem isStoredKey_eq_occursIn :
    ∃ pattern, Pattern.ofString? "^[A-Z][A-Z0-9_]*$" = some pattern ∧
      ∀ name, isStoredKey name = pattern.occursIn name := by
  refine ⟨namePattern storedFirst storedFurther, by decide, ?_⟩
  intro name
  rw [namePattern_occursIn, funext contains_storedFirst, funext contains_storedFurther]
  rfl

/-- The grammar of requested names as it is written: its pattern occurs in these names only. -/
theorem isRequestKey_eq_occursIn :
    ∃ pattern, Pattern.ofString? "^[A-Za-z_][A-Za-z0-9_]*$" = some pattern ∧
      ∀ name, isRequestKey name = pattern.occursIn name := by
  refine ⟨namePattern requestFirst requestFurther, by decide, ?_⟩
  intro name
  rw [namePattern_occursIn, funext contains_requestFirst, funext contains_requestFurther]
  rfl

/-! ## Entry lines -/

namespace EnvFile

def blanks : Pattern := rep (one .blank) 0 none

def separators : CharClass := bracket [(':', ':'), ('=', '=')]

/-- The pattern of entry lines as it is read. -/
def entryPattern : Pattern :=
  seq (anchor .textStart) (seq blanks
    (seq (seq (one requestFirst) (rep (one requestFurther) 0 none))
      (seq blanks (seq (one separators)
        (seq blanks (seq (rep (one (.complement (.single '\n'))) 0 none) (anchor .textEnd)))))))

theorem contains_separators (c : Char) : separators.contains c = isSeparator c := by
  rw [Bool.eq_iff_iff, separators, contains_bracket, isSeparator]
  simp only [List.any_cons, List.any_nil, Bool.or_false, Bool.or_eq_true, decide_eq_true_eq,
    beq_iff_eq, ← Char.toNat_inj, Char.reduceToNat]
  omega

/-- In a line without line feeds the pattern of entry lines occurs exactly if it is one. -/
theorem entryPattern_occursIn
    {line : Line}
    (noFeed : '\n' ∉ line) :
    entryPattern.occursIn (String.ofList line) = isEntryLine line := by
  rw [Bool.eq_iff_iff, occursIn_iff (by decide), isEntryLine_iff, entryPattern,
    fitsWithin_whole_iff, String.toList_ofList]
  simp only [blanks, fits_seq_assoc, fits_one_then_iff, fits_run_then_iff, fits_textEnd_iff,
    contains_requestFirst, contains_requestFurther, contains_separators]
  constructor
  · intro found
    obtain ⟨_, back, whole, indent, _, rfl, indentBlank, first, _, rfl, starts, rest, _, rfl,
      continues, gap, _, rfl, gapBlank, separator, tail, rfl, separates, _⟩ := found
    have validKey : isRequestKey (String.ofList (first :: rest)) = true :=
      fits_iff.mpr ⟨first, rest, String.toList_ofList, starts, continues⟩
    have line_eq : line = indent ++ ((String.ofList (first :: rest)).toList ++
        (gap ++ separator :: (tail ++ back))) := by
      simpa using whole
    exact ⟨_, ⟨indent, gap, separator, tail ++ back, line_eq, indentBlank, validKey, gapBlank,
      separates⟩⟩
  · intro entry
    obtain ⟨key, ⟨indent, gap, separator, tail, rfl, indentBlank, validKey, gapBlank,
      separates⟩⟩ := entry
    obtain ⟨first, rest, name, starts, continues⟩ := exists_cons_of_isRequestKey validKey
    have tailFits : ∀ c ∈ tail, (CharClass.complement (.single '\n')).contains c = true := by
      intro c member
      have inLine : c ∈ indent ++ (key.toList ++ (gap ++ separator :: tail)) := by
        simp [member]
      have notFeed : c ≠ '\n' := ne_of_mem_of_not_mem inLine noFeed
      rw [CharClass.contains, Bool.not_eq_true', Bool.eq_false_iff]
      exact fun isFeed => notFeed (contains_single_iff.mp isFeed)
    -- The blanks before the value may as well be counted as part of it.
    exact ⟨indent ++ (first :: rest ++ (gap ++ separator :: tail)), [], by simp [name], indent, _,
      rfl, indentBlank, first, _, rfl, starts, rest, _, rfl, continues, gap, _, rfl, gapBlank,
      separator, tail, rfl, separates, [], tail, rfl, by simp, tail, [], by simp, tailFits, rfl,
      rfl⟩

/-- The grammar of entry lines as it is written: its pattern occurs in these lines only. -/
theorem isEntryLine_eq_occursIn :
    ∃ pattern,
      Pattern.ofString? "^\\s*([A-Za-z_][A-Za-z0-9_]*)\\s*([:=])\\s*(.*)$" = some pattern ∧
        ∀ line, '\n' ∉ line → isEntryLine line = pattern.occursIn (String.ofList line) :=
  ⟨entryPattern, by decide, fun _ noFeed => (entryPattern_occursIn noFeed).symm⟩

end EnvFile

end SealedEnv
