import SealedEnv.Proofs.EnvFile.Division
import SealedEnv.Proofs.EnvFile.EntryGrammar
import SealedEnv.Proofs.EnvMap
import SealedEnv.Proofs.Text.Lines

/-!
Contract: what each line of an env file has a say in.

Owns:
- the pairs of some lines, to which a line adds one if it is an entry line;
- the keys of a text, which are those of its entry lines;
- `IsLastEntry`, the lines that decide on the value of a key;
- the law that a new entry line ends whatever stands before it, read as maps.

Does not own: what is written into an env file.
-/

namespace SealedEnv.EnvFile

open Text

/-! ## The pairs of lines -/

/-- The pairs that some lines give. -/
def pairsOf (lines : List Line) : List (String × String) := (itemsOf lines).filterMap Item.pair?

/-- The value that a line gives its key, if it sets one.  A value that opens a block goes on in the
lines after it. -/
def valueUnder? (line : Line) (rest : List Line) : Option String :=
  (EntryLine.ofLine? line).map fun entry =>
    String.ofList (valueOf entry.raw (takeBlock rest).1)

theorem parse_eq (text : String) : parse text = EnvMap.ofList (pairsOf (lines text.toList)) := rfl

@[simp] theorem pairsOf_nil : pairsOf [] = [] := by
  unfold pairsOf
  rw [itemsOf_nil, List.filterMap_nil]

/-- A line that is no entry line adds nothing to the pairs of the lines after it. -/
theorem pairsOf_other
    {line : Line}
    (found : EntryLine.ofLine? line = none)
    (rest : List Line) :
    pairsOf (line :: rest) = pairsOf rest := by
  unfold pairsOf
  rw [itemsOf_other found]
  rfl

/-- An entry line adds its own pair, and takes no pair from the lines after it. -/
theorem pairsOf_entry
    {line : Line}
    {key : String}
    {raw : List Char}
    (found : EntryLine.ofLine? line = some ⟨key, raw⟩)
    (rest : List Line) :
    pairsOf (line :: rest) =
      (key, String.ofList (valueOf raw (takeBlock rest).1)) :: pairsOf rest := by
  unfold pairsOf
  cases opens : opensBlock raw with
  | false =>
      -- A value on one line is read without the lines after it.
      have sameValue : valueOf raw [] = valueOf raw (takeBlock rest).1 := by
        simp [valueOf, opens]
      rw [itemsOf_single found opens, List.filterMap_cons, ← sameValue]
      rfl
  | true =>
      have sameRest : pairsOf (takeBlock rest).2 = pairsOf rest :=
        filterMap_itemsOf_takeBlock (fun _ => rfl) rest
      rw [itemsOf_block found opens, List.filterMap_cons]
      show _ :: pairsOf (takeBlock rest).2 = _
      rw [sameRest]
      rfl

/-- The keys of the pairs are those of the entry lines, in order and as often. -/
theorem keys_pairsOf (lines : List Line) :
    (pairsOf lines).map Prod.fst = lines.filterMap keyOf? := by
  induction lines with
  | nil => simp
  | cons line rest inductionHypothesis =>
      cases found : EntryLine.ofLine? line with
      | none =>
          rw [pairsOf_other found, inductionHypothesis,
            List.filterMap_cons_none (keyOf?_of_none found)]
      | some entry =>
          have setsKey : keyOf? line = some entry.key := by
            rw [keyOf?, found, Option.map_some]
          rw [pairsOf_entry found, List.map_cons, inductionHypothesis,
            List.filterMap_cons_some setsKey]

theorem mem_keys_pairsOf_iff {key : String} {lines : List Line} :
    key ∈ (pairsOf lines).map Prod.fst ↔ ∃ line ∈ lines, keyOf? line = some key := by
  rw [keys_pairsOf, List.mem_filterMap]

/-- The keys of a text are those of its entry lines, whatever stands between them. -/
theorem mem_keys_parse_iff (text key : String) :
    key ∈ (parse text).keys ↔ ∃ line ∈ lines text.toList, keyOf? line = some key := by
  rw [parse_eq, EnvMap.mem_keys_ofList_iff, mem_keys_pairsOf_iff]

/-- An entry line ends whatever stands before it. -/
theorem pairsOf_append
    (front : List Line)
    {rest : List Line}
    (ends : EndsBlock rest) :
    pairsOf (front ++ rest) = pairsOf front ++ pairsOf rest := by
  unfold pairsOf
  rw [itemsOf_append front ends, List.filterMap_append]

/-- The lines from the first entry line on have no say in a value. -/
theorem valueUnder?_append
    (line : Line)
    (others : List Line)
    {after : List Line}
    (ends : EndsBlock after) :
    valueUnder? line (others ++ after) = valueUnder? line others := by
  unfold valueUnder?
  rw [takeBlock_append others ends]

/-! ## The last entry line of a key -/

/-- Holds of the last entry line of a key among some lines, and of the lines directly after it that
are no entry lines. -/
structure IsLastEntry
    (key : String)
    (lines : List Line)
    (line : Line)
    (others : List Line) : Prop where
  sets : keyOf? line = some key
  plain : ∀ other ∈ others, isEntryLine other = false
  split : ∃ before after, lines = before ++ line :: (others ++ after) ∧
    EndsBlock after ∧ ∀ later ∈ after, keyOf? later ≠ some key

theorem keyOf?_of_plain
    {line : Line}
    (plain : isEntryLine line = false) :
    keyOf? line = none := by
  apply keyOf?_of_none
  simpa [isEntryLine] using plain

/-- Lines are some that are no entry lines and, where an open block ends, the rest. -/
theorem exists_plain_append (lines : List Line) :
    ∃ others after, lines = others ++ after ∧ (∀ other ∈ others, isEntryLine other = false) ∧
      EndsBlock after := by
  induction lines with
  | nil => exact ⟨[], [], rfl, by simp, rfl⟩
  | cons line rest inductionHypothesis =>
      cases entry : isEntryLine line with
      | true => exact ⟨[], line :: rest, rfl, by simp, entry⟩
      | false =>
          obtain ⟨others, after, rfl, plain, ends⟩ := inductionHypothesis
          exact ⟨line :: others, after, rfl, List.forall_mem_cons.mpr ⟨entry, plain⟩, ends⟩

theorem exists_isLastEntry
    {key : String}
    {lines : List Line}
    (present : ∃ line ∈ lines, keyOf? line = some key) :
    ∃ line others, IsLastEntry key lines line others := by
  induction lines with
  | nil =>
      obtain ⟨line, member, -⟩ := present
      contradiction
  | cons first rest inductionHypothesis =>
      by_cases further : ∃ line ∈ rest, keyOf? line = some key
      · obtain ⟨line, others, last⟩ := inductionHypothesis further
        obtain ⟨before, after, shape, ends, notLater⟩ := last.split
        have longer : first :: rest = (first :: before) ++ line :: (others ++ after) := by
          rw [shape, List.cons_append]
        exact ⟨line, others, last.sets, last.plain, first :: before, after, longer, ends, notLater⟩
      · have sets : keyOf? first = some key := by
          obtain ⟨line, member, sets⟩ := present
          rcases List.mem_cons.mp member with rfl | inRest
          · exact sets
          · exact absurd ⟨line, inRest, sets⟩ further
        obtain ⟨others, after, rfl, plain, ends⟩ := exists_plain_append rest
        refine ⟨first, others, sets, plain, [], after, rfl, ends, ?_⟩
        intro later member laterSets
        exact further ⟨later, List.mem_append_right others member, laterSets⟩

/-- A key has the value that its last entry line gives it. -/
theorem get?_parse_of_isLastEntry
    {text key : String}
    {line : Line}
    {others : List Line}
    (last : IsLastEntry key (lines text.toList) line others) :
    (parse text).get? key = valueUnder? line others := by
  obtain ⟨before, after, shape, ends, notLater⟩ := last.split
  obtain ⟨⟨held, raw⟩, found, rfl⟩ := Option.map_eq_some_iff.mp last.sets
  have lineEnds : EndsBlock (line :: (others ++ after)) := by
    simp [EndsBlock, isEntryLine, found]
  have notAgain : held ∉ (pairsOf (others ++ after)).map Prod.fst := by
    rw [mem_keys_pairsOf_iff]
    intro again
    obtain ⟨later, member, sets⟩ := again
    rcases List.mem_append.mp member with inOthers | inAfter
    · rw [keyOf?_of_plain (last.plain later inOthers)] at sets
      contradiction
    · exact notLater later inAfter sets
  have value : valueUnder? line (others ++ after) =
      some (String.ofList (valueOf raw (takeBlock (others ++ after)).1)) := by
    rw [valueUnder?, found, Option.map_some]
  rw [← valueUnder?_append line others ends, value, parse_eq, shape, pairsOf_append before lineEnds,
    pairsOf_entry found]
  exact EnvMap.get?_ofList_append_cons notAgain (pairsOf before) _

theorem get?_parse_eq_some_iff (text key value : String) :
    (parse text).get? key = some value ↔
      ∃ line others, IsLastEntry key (lines text.toList) line others ∧
        valueUnder? line others = some value := by
  constructor
  · intro holds
    have isKey : key ∈ (parse text).keys := (EnvMap.mem_keys_iff _ key).mpr ⟨value, holds⟩
    obtain ⟨line, others, last⟩ := exists_isLastEntry ((mem_keys_parse_iff text key).mp isKey)
    exact ⟨line, others, last, (get?_parse_of_isLastEntry last).symm.trans holds⟩
  · intro given
    obtain ⟨line, others, last, value⟩ := given
    exact (get?_parse_of_isLastEntry last).trans value

/-! ## Texts one after the other -/

/-- A text that begins with an entry line is read apart from what stands before it. -/
theorem parse_append
    {front rest : String}
    (finished : front = "" ∨ front.toList.getLast? = some '\n')
    (starts : (lines rest.toList).head?.any isEntryLine = true) :
    parse (front ++ rest) = (parse front).override (parse rest) := by
  have finishedChars : front.toList = [] ∨ front.toList.getLast? = some '\n' :=
    finished.imp String.toList_eq_nil_iff.mpr id
  have ends : EndsBlock (lines rest.toList) := by
    unfold EndsBlock
    cases first : (lines rest.toList).head? with
    | none => rfl
    | some line => simpa [first] using starts
  rw [parse_eq, String.toList_append, lines_append finishedChars, pairsOf_append _ ends,
    EnvMap.ofList_append, ← parse_eq, ← parse_eq]

/-- A new key ends whatever stands before it.  A text that begins with an entry line is read apart
from the finished lines before it, and its keys take precedence.  So the keys of a text are those of
its entry lines, whatever is left open between them, and the value of a key is what its last entry
line makes of itself and of the lines directly after it that are no entry lines. -/
theorem parse_entry_by_entry :
    (∀ front rest : String, (front = "" ∨ front.toList.getLast? = some '\n') →
      (lines rest.toList).head?.any isEntryLine = true →
      parse (front ++ rest) = (parse front).override (parse rest)) ∧
    (∀ text key, key ∈ (parse text).keys ↔
      ∃ line ∈ lines text.toList, keyOf? line = some key) ∧
    ∀ text key value, (parse text).get? key = some value ↔
      ∃ line others, IsLastEntry key (lines text.toList) line others ∧
        valueUnder? line others = some value :=
  ⟨fun _ _ finished starts => parse_append finished starts, mem_keys_parse_iff,
    get?_parse_eq_some_iff⟩

/-- A quote that is left open before a key that was set already, and one that is closed after a line
that looks like a value. -/
theorem parse_entry_by_entry_openQuote :
    let front := "B=0\nA='left open\n# B\n"
    let rest := " B : 'one\n= two' \n'\nB 3\nC=\"x"
    front.toList.getLast? = some '\n' ∧ (lines rest.toList).head?.any isEntryLine = true ∧
      parse (front ++ rest) = (parse front).override (parse rest) ∧
      (parse (front ++ rest)).entries =
        [("A", "left open\n# B"), ("B", "one\n= two' \n"), ("C", "x")] := by
  intro front rest
  have finished : front.toList.getLast? = some '\n' := by decide
  have starts : (lines rest.toList).head?.any isEntryLine = true := by decide
  have apart := parse_entry_by_entry.1 front rest (.inr finished) starts
  exact ⟨finished, starts, apart, by decide +kernel⟩

end SealedEnv.EnvFile
