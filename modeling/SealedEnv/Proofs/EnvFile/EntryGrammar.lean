import SealedEnv.EnvFile.Entry
import SealedEnv.Proofs.KeyName
import SealedEnv.Proofs.Text.Trim

/-!
Contract: which lines of an env file set a key, and to what.

Owns:
- `EntryParts`, the parts of a line that sets a key;
- the law that a line is read as an entry exactly if it has these parts;
- the key of a line, which only a separator at the end of the line can change.

Does not own: the value that is read from what follows the separator.
-/

namespace SealedEnv.EnvFile

open Text

/-! ## The grammar -/

/-- The parts of a line that sets a key: blanks, the key, blanks, a separator, and the rest. -/
structure EntryParts (line : Line) (key : String) where
  indent : List Char
  gap : List Char
  separator : Char
  tail : List Char
  line_eq : line = indent ++ (key.toList ++ (gap ++ separator :: tail))
  indentBlank : ∀ c ∈ indent, isBlank c = true
  validKey : isRequestKey key = true
  gapBlank : ∀ c ∈ gap, isBlank c = true
  isSeparator : isSeparator separator = true

/-- A separator stops the scan of blanks and that of a key. -/
theorem stops_of_isSeparator
    {c : Char}
    (separates : isSeparator c = true) :
    isBlank c = false ∧ KeyName.continuesRequest c = false := by
  rw [isSeparator, Bool.or_eq_true, beq_iff_eq, beq_iff_eq] at separates
  rcases separates with rfl | rfl
  · decide
  · decide

/-- What follows a key stops both the scan of the key and that of the blanks after it. -/
theorem EntryParts.ofLine?_eq
    {line : Line}
    {key : String}
    (parts : EntryParts line key) :
    EntryLine.ofLine? line = some ⟨key, trimStart parts.tail⟩ := by
  obtain ⟨indent, gap, separator, tail, rfl, indentBlank, validKey, gapBlank, separates⟩ := parts
  obtain ⟨first, rest, name, starts, continues⟩ := exists_cons_of_isRequestKey validKey
  obtain ⟨separatorFilled, separatorEnds⟩ := stops_of_isSeparator separates
  have notBlank : isBlank first = false :=
    KeyName.isBlank_of_continuesRequest (KeyName.continuesRequest_of_startsRequest starts)
  have keyEnds : (gap ++ separator :: tail).head?.any KeyName.continuesRequest = false := by
    cases gap with
    | nil => simpa using separatorEnds
    | cons blank _ =>
        have blankFirst : isBlank blank = true := gapBlank blank List.mem_cons_self
        cases isName : KeyName.continuesRequest blank with
        | false => simpa using isName
        | true => simp [KeyName.isBlank_of_continuesRequest isName] at blankFirst
  have front : trimStart (indent ++ (key.toList ++ (gap ++ separator :: tail))) =
      first :: (rest ++ (gap ++ separator :: tail)) := by
    unfold trimStart
    rw [List.dropWhile_append_of_pos indentBlank, name, List.cons_append,
      List.dropWhile_cons_of_neg (by simp [notBlank])]
  have nameEnd : (rest ++ (gap ++ separator :: tail)).dropWhile KeyName.continuesRequest =
      gap ++ separator :: tail := by
    rw [List.dropWhile_append_of_pos continues, dropWhile_eq_self keyEnds]
  have nameRest : (rest ++ (gap ++ separator :: tail)).takeWhile KeyName.continuesRequest =
      rest := by
    rw [List.takeWhile_append_of_pos continues, takeWhile_eq_nil keyEnds, List.append_nil]
  have gapEnd : trimStart (gap ++ separator :: tail) = separator :: tail := by
    unfold trimStart
    rw [List.dropWhile_append_of_pos gapBlank,
      List.dropWhile_cons_of_neg (by simp [separatorFilled])]
  unfold EntryLine.ofLine?
  rw [front]
  simp only [starts, if_true, nameEnd, nameRest, gapEnd]
  rw [if_pos separates, ← name, String.ofList_toList]

/-- A line that sets a key has the parts of one, and what follows the separator is read without the
blanks before it. -/
theorem exists_entryParts
    {line : Line}
    {key : String}
    {raw : List Char}
    (found : EntryLine.ofLine? line = some ⟨key, raw⟩) :
    ∃ parts : EntryParts line key, raw = trimStart parts.tail := by
  unfold EntryLine.ofLine? at found
  split at found
  · contradiction
  · rename_i first rest front
    split at found
    · rename_i starts
      split at found
      · contradiction
      · rename_i c tail gapEnd
        split at found
        · rename_i separates
          obtain ⟨rfl, rfl⟩ := EntryLine.mk.inj (Option.some.inj found)
          have validKey : isRequestKey (String.ofList
              (first :: rest.takeWhile KeyName.continuesRequest)) = true := by
            apply KeyName.fits_iff.mpr
            refine ⟨first, _, String.toList_ofList, starts, ?_⟩
            exact List.all_eq_true.mp List.all_takeWhile
          have line_eq : line = line.takeWhile isBlank ++ ((String.ofList
              (first :: rest.takeWhile KeyName.continuesRequest)).toList ++
                ((rest.dropWhile KeyName.continuesRequest).takeWhile isBlank ++ c :: tail)) := by
            rw [← gapEnd, trimStart, List.takeWhile_append_dropWhile, String.toList_ofList,
              List.cons_append, List.takeWhile_append_dropWhile, ← front, trimStart,
              List.takeWhile_append_dropWhile]
          exact ⟨{
            indent := line.takeWhile isBlank
            gap := (rest.dropWhile KeyName.continuesRequest).takeWhile isBlank
            separator := c
            tail
            line_eq
            indentBlank := List.all_eq_true.mp List.all_takeWhile
            validKey
            gapBlank := List.all_eq_true.mp List.all_takeWhile
            isSeparator := separates }, rfl⟩
        · contradiction
    · contradiction

/-! ## Keys of lines -/

/-- The key that a line sets. -/
def keyOf? (line : Line) : Option String := (EntryLine.ofLine? line).map EntryLine.key

theorem keyOf?_of_none
    {line : Line}
    (found : EntryLine.ofLine? line = none) :
    keyOf? line = none := by
  rw [keyOf?, found]
  rfl

theorem isEntryLine_eq (line : Line) : isEntryLine line = (keyOf? line).isSome :=
  Option.isSome_map.symm

/-- A line sets a key exactly if it has the parts of a line that does. -/
theorem keyOf?_eq_some_iff
    {line : Line}
    {key : String} :
    keyOf? line = some key ↔ Nonempty (EntryParts line key) := by
  unfold keyOf?
  constructor
  · intro sets
    obtain ⟨⟨held, raw⟩, found, rfl⟩ := Option.map_eq_some_iff.mp sets
    obtain ⟨parts, -⟩ := exists_entryParts found
    exact ⟨parts⟩
  · rintro ⟨parts⟩
    rw [parts.ofLine?_eq]
    rfl

theorem isEntryLine_iff {line : Line} :
    isEntryLine line = true ↔ ∃ key, Nonempty (EntryParts line key) := by
  rw [isEntryLine_eq, Option.isSome_iff_exists]
  exact exists_congr fun _ => keyOf?_eq_some_iff

/-- A character at its end does not change the key of a line, unless it is a separator: then it may
be the one that the line still wants. -/
theorem keyOf?_append_singleton
    {c : Char}
    (plain : isSeparator c = false)
    (line : Line) :
    keyOf? (line ++ [c]) = keyOf? line := by
  apply Option.ext
  intro key
  rw [keyOf?_eq_some_iff, keyOf?_eq_some_iff]
  constructor
  · rintro ⟨indent, gap, separator, tail, line_eq, indentBlank, validKey, gapBlank, separates⟩
    rcases List.eq_nil_or_concat tail with rfl | ⟨tail, last, rfl⟩
    · have sameEnd : some c = some separator := by
        simpa using congrArg List.getLast? line_eq
      rw [Option.some.inj sameEnd, separates] at plain
      contradiction
    · have regrouped : line ++ [c] =
          (indent ++ (key.toList ++ (gap ++ separator :: tail))) ++ [last] := by
        simpa using line_eq
      exact ⟨indent, gap, separator, tail, List.append_inj_left' regrouped rfl, indentBlank,
        validKey, gapBlank, separates⟩
  · rintro ⟨indent, gap, separator, tail, rfl, indentBlank, validKey, gapBlank, separates⟩
    have regrouped : (indent ++ (key.toList ++ (gap ++ separator :: tail))) ++ [c] =
        indent ++ (key.toList ++ (gap ++ separator :: (tail ++ [c]))) := by
      simp
    exact ⟨indent, gap, separator, tail ++ [c], regrouped, indentBlank, validKey, gapBlank,
      separates⟩

end SealedEnv.EnvFile
