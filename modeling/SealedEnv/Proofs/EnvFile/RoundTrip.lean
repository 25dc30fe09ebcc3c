import SealedEnv.Proofs.EnvFile.EntryForm
import SealedEnv.Proofs.EnvMap

/-!
Contract: what is printed is read back.

Owns:
- the map that one printed entry denotes, and for which values it is the value that was printed;
- the map that a printed list of entries denotes.

Does not own: setting a key in a file that is already there.
-/

namespace SealedEnv.EnvFile

open Text

/-! ## Values that read back as they were -/

/-- Holds of the blanks that do not force quotes around a value: all but the space, the tab, the
carriage return and the line feed. -/
def isRareBlank (c : Char) : Bool :=
  isBlank c && !(c == ' ' || c == '\t' || c == '\r' || c == '\n')

/-- Holds of a value that has no such blank at either end. -/
def hasPlainEnds (value : String) : Bool :=
  !value.toList.head?.any isRareBlank && !value.toList.getLast?.any isRareBlank

/-- A value without blanks has none at its ends. -/
theorem hasPlainEnds_of_noBlank
    {value : String}
    (noBlank : (value.toList.all fun c => !isBlank c) = true) :
    hasPlainEnds value = true := by
  have notRare : ∀ border : Option Char, (∀ c ∈ border, c ∈ value.toList) →
      border.any isRareBlank = false := by
    intro border inValue
    cases border with
    | none => rfl
    | some c =>
        have plain : isBlank c = false := by
          simpa using List.all_eq_true.mp noBlank c (inValue c rfl)
        simp [isRareBlank, plain]
  unfold hasPlainEnds
  rw [notRare _ fun c isFirst => List.mem_of_head? isFirst,
    notRare _ fun c isLast => List.mem_of_getLast? isLast]
  rfl

/-- In a bare value every blank is a rare one. -/
theorem isBlank_eq_isRareBlank
    {value : List Char}
    (bare : isBare value = true)
    {c : Char}
    (member : c ∈ value) :
    isBlank c = isRareBlank c := by
  obtain ⟨notFeed, noQuotes⟩ := of_isBare bare member
  simp only [needsQuotes, Bool.or_eq_false_iff] at noQuotes
  simp [isRareBlank, noQuotes, notFeed]

/-- A value reads back as it was unless it is bare and has a rare blank at one of its ends. -/
theorem readBack_eq_self_iff (value : String) :
    readBack value = value ↔ isBare value.toList = false ∨ hasPlainEnds value = true := by
  unfold readBack
  cases bare : isBare value.toList with
  | false => simp
  | true =>
      have frontSame : value.toList.head?.any isBlank = value.toList.head?.any isRareBlank := by
        cases front : value.toList.head? with
        | none => rfl
        | some c => exact isBlank_eq_isRareBlank bare (List.mem_of_head? front)
      have endSame : value.toList.getLast?.any isBlank =
          value.toList.getLast?.any isRareBlank := by
        cases final : value.toList.getLast? with
        | none => rfl
        | some c => exact isBlank_eq_isRareBlank bare (List.mem_of_getLast? final)
      have trimmed : String.ofList (trim value.toList) = value ↔
          trim value.toList = value.toList := by
        rw [← String.toList_inj, String.toList_ofList]
      rw [if_pos rfl, trimmed, trim_eq_self_iff, frontSame, endSame]
      simp [hasPlainEnds]

theorem readBack_of_hasPlainEnds
    {value : String}
    (plainEnds : hasPlainEnds value = true) :
    readBack value = value :=
  (readBack_eq_self_iff value).mpr (.inr plainEnds)

/-! ## One entry -/

theorem getLast?_printEntry (key value : String) :
    ∃ last, (printEntry key value).toList.getLast? = some last ∧ last ≠ '\n' := by
  have text : (printEntry key value).toList =
      (key.toList ++ ['=']) ++ writtenValue value.toList := by
    simp [printEntry]
  rw [text, List.getLast?_append]
  cases final : (writtenValue value.toList).getLast? with
  | none => exact ⟨'=', by simp, by decide⟩
  | some c =>
      refine ⟨c, rfl, ?_⟩
      rcases writtenValue_cases value.toList with ⟨bare, written⟩ | ⟨_, written⟩ | ⟨_, _, written⟩
      · rw [written] at final
        exact (of_isBare bare (List.mem_of_getLast? final)).1
      · rw [written] at final
        exact (not_lineEnd_of_mem_doubleQuoted (List.mem_of_getLast? final)).1
      · rw [written, List.getLast?_append] at final
        have isQuote : '\'' = c := by simpa using final
        exact isQuote ▸ by decide

theorem lines_printEntry
    {key : String}
    (validKey : isRequestKey key = true)
    (value : String) :
    lines (printEntry key value).toList = printedLines key value := by
  obtain ⟨last, ends, notFeed⟩ := getLast?_printEntry key value
  exact lines_of_unfinished (printEntry_append_feed key value)
    (isWhole_printedLines validKey value) ends notFeed

/-- A printed entry denotes the map of its key and the value that is read back. -/
theorem parse_printEntry
    {key : String}
    (validKey : isRequestKey key = true)
    (value : String) :
    parse (printEntry key value) = EnvMap.ofList [(key, readBack value)] := by
  have divided := itemsOf_printedLines validKey value []
  rw [List.append_nil, itemsOf_nil] at divided
  unfold parse pairs items
  rw [lines_printEntry validKey, divided]
  simp [Item.entry?, (printedEntry_reads key value).1]

/-- A printed entry denotes the map of its key and its value exactly if the value holds a character
that brings it into quotes, or has no rare blank at either end. -/
theorem parse_printEntry_eq_iff
    {key : String}
    (validKey : isRequestKey key = true)
    (value : String) :
    parse (printEntry key value) = EnvMap.ofList [(key, value)] ↔
      (value.toList.any fun c => c == '\n' || needsQuotes c) = true ∨
        hasPlainEnds value = true := by
  have sameMap : EnvMap.ofList [(key, readBack value)] = EnvMap.ofList [(key, value)] ↔
      readBack value = value := by
    constructor
    · intro same
      have sameValue := congrArg (EnvMap.get? · key) same
      simpa [EnvMap.get?_ofList] using sameValue
    · intro same
      rw [same]
  rw [parse_printEntry validKey, sameMap, readBack_eq_self_iff]
  simp [isBare]

/-- The condition is met by a value of several lines with a blank first one. -/
theorem parse_printEntry_blankFirstLine :
    isRequestKey "KEY" = true ∧
      (parse (printEntry "KEY" " \nit's") = EnvMap.ofList [("KEY", " \nit's")] ↔
        (" \nit's".toList.any fun c => c == '\n' || needsQuotes c) = true ∨
          hasPlainEnds " \nit's" = true) :=
  ⟨by decide, parse_printEntry_eq_iff (by decide) " \nit's"⟩

/-- A value that is one no-break space is lost. -/
theorem parse_printEntry_noBreakSpace :
    isRequestKey "K" = true ∧
      parse (printEntry "K" "\u00a0") ≠ EnvMap.ofList [("K", "\u00a0")] := by
  refine ⟨by decide, ?_⟩
  rw [parse_printEntry (by decide)]
  decide

/-! ## Lists of entries -/

theorem printAll_toList (entries : List (String × String)) :
    (printAll entries).toList =
      terminated (entries.flatMap fun pair => printedLines pair.1 pair.2) := by
  unfold printAll
  rw [String.toList_join]
  induction entries with
  | nil => rfl
  | cons pair rest inductionHypothesis =>
      rw [List.map_cons, List.flatMap_cons, inductionHypothesis, List.flatMap_cons,
        terminated_append, ← printEntry_append_feed, String.toList_append]
      rfl

theorem itemsOf_flatMap_printedLines
    {entries : List (String × String)}
    (validKeys : ∀ pair ∈ entries, isRequestKey pair.1 = true) :
    itemsOf (entries.flatMap fun pair => printedLines pair.1 pair.2) =
      entries.map fun pair => .entry (printedEntry pair.1 pair.2) := by
  induction entries with
  | nil => simp
  | cons pair rest inductionHypothesis =>
      have restValid : ∀ other ∈ rest, isRequestKey other.1 = true := by
        intro other member
        exact validKeys other (List.mem_cons_of_mem pair member)
      rw [List.flatMap_cons, itemsOf_printedLines (validKeys pair (by simp)),
        inductionHypothesis restValid]
      rfl

theorem pairs_printAll
    {entries : List (String × String)}
    (validKeys : ∀ pair ∈ entries, isRequestKey pair.1 = true) :
    pairs (printAll entries) = entries.map fun pair => (pair.1, readBack pair.2) := by
  have whole : ∀ line ∈ entries.flatMap fun pair => printedLines pair.1 pair.2,
      IsWhole line := by
    intro line member
    obtain ⟨pair, inEntries, inPair⟩ := List.mem_flatMap.mp member
    exact isWhole_printedLines (validKeys pair inEntries) pair.2 line inPair
  unfold pairs items
  rw [printAll_toList, lines_terminated whole, itemsOf_flatMap_printedLines validKeys,
    List.filterMap_map]
  simp [Function.comp_def, Item.entry?, (printedEntry_reads _ _).1]

/-- A printed list of entries is read back pair by pair, so that it denotes the map in which each
key has the value of its last pair. -/
theorem parse_printAll
    (entries : List (String × String))
    (validKeys : ∀ pair ∈ entries, isRequestKey pair.1 = true)
    (plainEnds : ∀ pair ∈ entries, hasPlainEnds pair.2 = true) :
    pairs (printAll entries) = entries ∧
      parse (printAll entries) = EnvMap.ofList entries ∧
      ∀ key, (parse (printAll entries)).get? key = entries.reverse.lookup key := by
  have same : pairs (printAll entries) = entries := by
    rw [pairs_printAll validKeys]
    conv => rhs; rw [← List.map_id entries]
    apply List.map_congr_left
    intro pair member
    rw [readBack_of_hasPlainEnds (plainEnds pair member)]
    rfl
  have whole : parse (printAll entries) = EnvMap.ofList entries := by
    unfold parse
    rw [same]
  refine ⟨same, whole, fun key => ?_⟩
  rw [whole, EnvMap.get?_ofList]

/-- A list with a key that comes twice, and with a value that has a line like an entry. -/
theorem parse_printAll_repeatedKey :
    let entries := [("A", "one\ntwo"), ("B", "it's"), ("A", " x "), ("C", "first\nB=1")]
    (∀ pair ∈ entries, isRequestKey pair.1 = true) ∧
      (∀ pair ∈ entries, hasPlainEnds pair.2 = true) ∧
      pairs (printAll entries) = entries ∧
      parse (printAll entries) = EnvMap.ofList entries ∧
      (∀ key, (parse (printAll entries)).get? key = entries.reverse.lookup key) ∧
      entries.reverse.lookup "A" = some " x " := by
  intro entries
  have validKeys : ∀ pair ∈ entries, isRequestKey pair.1 = true := by decide
  have plainEnds : ∀ pair ∈ entries, hasPlainEnds pair.2 = true := by decide
  obtain ⟨same, whole, found⟩ := parse_printAll entries validKeys plainEnds
  exact ⟨validKeys, plainEnds, same, whole, found, by decide⟩

end SealedEnv.EnvFile
