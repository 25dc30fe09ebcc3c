import SealedEnv.EnvFile.Printer
import SealedEnv.Proofs.EnvFile.Division
import SealedEnv.Proofs.EnvFile.EntryGrammar
import SealedEnv.Proofs.Text.Lines

/-!
Contract: a printed entry is read as one entry, whatever follows it.

Owns:
- the line of a key, an equals sign and a value, and the entry that it is;
- the round trips of the written forms: bare, in double quotes, and in a block;
- `printedEntry`, the entry that a printed one is read as, and `readBack`, its value.

Does not own: files of several entries.
-/

namespace SealedEnv.EnvFile

open Text

/-! ## Entry lines -/

/-- The line of a key, an equals sign and a value is read as that key and that value, without the
blanks before the value. -/
theorem ofLine?_assignment
    {key : String}
    (validKey : isRequestKey key = true)
    (value : List Char) :
    EntryLine.ofLine? (key.toList ++ '=' :: value) = some ⟨key, trimStart value⟩ :=
  EntryParts.ofLine?_eq {
    indent := []
    gap := []
    separator := '='
    tail := value
    line_eq := rfl
    indentBlank := by simp
    validKey
    gapBlank := by simp
    isSeparator := rfl }

/-- A quote at its end makes no line an entry line, and keeps none from being one. -/
theorem isEntryLine_append_quote (line : Line) :
    isEntryLine (line ++ ['\'']) = isEntryLine line := by
  rw [isEntryLine_eq, isEntryLine_eq, keyOf?_append_singleton rfl]

/-! ## Values in double quotes -/

theorem unescapeDoubleAfter_escapeDouble
    (done : List Char)
    (c : Char)
    (rest : List Char) :
    unescapeDoubleAfter done (escapeDouble c ++ rest) = unescapeDoubleAfter (c :: done) rest := by
  unfold escapeDouble
  split
  · rfl
  · rfl
  · rfl
  · rfl
  · rfl
  · rename_i notBackslash notQuote _ _ _
    rw [List.singleton_append]
    exact unescapeDoubleAfter.eq_5 done c rest notQuote
      (fun isBackslash _ => notBackslash isBackslash)
      (fun _ _ isBackslash _ => notBackslash isBackslash)

theorem unescapeDoubleAfter_escaped (done value rest : List Char) :
    unescapeDoubleAfter done (value.flatMap escapeDouble ++ '"' :: rest) =
      done.reverse ++ value := by
  induction value generalizing done with
  | nil => simp [unescapeDoubleAfter]
  | cons c value inductionHypothesis =>
      rw [List.flatMap_cons, List.append_assoc, unescapeDoubleAfter_escapeDouble,
        inductionHypothesis]
      simp

theorem not_lineEnd_of_mem_escapeDouble
    {c written : Char}
    (member : written ∈ escapeDouble c) :
    written ≠ '\n' ∧ written ≠ '\r' := by
  unfold escapeDouble at member
  split at member
  all_goals simp only [List.mem_cons, List.not_mem_nil, or_false] at member
  · rcases member with rfl | rfl <;> decide
  · rcases member with rfl | rfl <;> decide
  · rcases member with rfl | rfl <;> decide
  · rcases member with rfl | rfl <;> decide
  · rcases member with rfl | rfl <;> decide
  · rename_i _ _ notFeed notReturn _
    exact ⟨member ▸ notFeed, member ▸ notReturn⟩

theorem not_lineEnd_of_mem_doubleQuoted
    {value : List Char}
    {written : Char}
    (member : written ∈ doubleQuoted value) :
    written ≠ '\n' ∧ written ≠ '\r' := by
  simp only [doubleQuoted, List.cons_append, List.mem_cons, List.mem_append,
    List.not_mem_nil, or_false] at member
  rcases member with quote | inside | quote
  · subst quote
    decide
  · obtain ⟨source, _, fromSource⟩ := List.mem_flatMap.mp inside
    exact not_lineEnd_of_mem_escapeDouble fromSource
  · subst quote
    decide

theorem valueOf_doubleQuoted (value : List Char) :
    opensBlock (trimStart (doubleQuoted value)) = false ∧
      valueOf (trimStart (doubleQuoted value)) [] = value := by
  have front : trimStart (doubleQuoted value) = doubleQuoted value := rfl
  have ends : trim (doubleQuoted value) = doubleQuoted value := by
    apply trim_eq_self
    · rfl
    · simp only [doubleQuoted, List.getLast?_append]
      rfl
  have closed : opensBlock (doubleQuoted value) = false := rfl
  rw [front]
  refine ⟨closed, ?_⟩
  unfold valueOf readValue
  rw [closed, ends]
  simp only [Bool.false_eq_true, if_false, doubleQuoted, List.cons_append, unescapeDouble]
  simpa using unescapeDoubleAfter_escaped [] value []

/-! ## Bare values -/

/-- Holds of a value that is written as it is. -/
def isBare (value : List Char) : Bool := !value.any fun c => c == '\n' || needsQuotes c

theorem of_isBare
    {value : List Char}
    (bare : isBare value = true)
    {c : Char}
    (member : c ∈ value) :
    c ≠ '\n' ∧ needsQuotes c = false := by
  simp only [isBare, Bool.not_eq_true', List.any_eq_false, Bool.or_eq_true, beq_iff_eq,
    not_or, Bool.not_eq_true] at bare
  exact bare c member

theorem dropCommentAfter_eq
    (done : List Char)
    {value : List Char}
    (noSpace : ' ' ∉ value) :
    dropCommentAfter done value = done.reverse ++ value := by
  induction value generalizing done with
  | nil => simp [dropCommentAfter]
  | cons c value inductionHypothesis =>
      have notSpace : c ≠ ' ' := fun same => noSpace (by simp [same])
      have noSpaceAfter : ' ' ∉ value := fun inside => noSpace (List.mem_cons_of_mem c inside)
      rw [dropCommentAfter.eq_3 done c value (fun rest isSpace _ => notSpace isSpace),
        inductionHypothesis (c :: done) noSpaceAfter]
      simp

theorem opensBlock_of_plain
    {value : List Char}
    (plain : ∀ c ∈ value, needsQuotes c = false) :
    opensBlock value = false := by
  unfold opensBlock
  cases value with
  | nil => rfl
  | cons first rest =>
      have notQuote : first ≠ '\'' := by
        intro same
        have isPlain := plain first (by simp)
        rw [same] at isPlain
        contradiction
      simp [notQuote]

theorem readValue_of_plain
    {value : List Char}
    (plain : ∀ c ∈ trim value, needsQuotes c = false) :
    readValue value = trim value := by
  have noSpace : ' ' ∉ trim value := by
    intro inside
    exact absurd (plain ' ' inside) (by decide)
  have unchanged : trim (dropComment (trim value)) = trim value := by
    unfold dropComment
    rw [dropCommentAfter_eq [] noSpace]
    exact trim_trim value
  unfold readValue
  split
  · rename_i empty
    rw [empty]
  · rename_i body quoted
    exact absurd (plain '"' (by simp [quoted])) (by decide)
  · rename_i quoted
    exact absurd (plain '\'' (by simp [quoted])) (by decide)
  · rename_i rest _ quoted
    exact absurd (plain '\'' (by simp [quoted])) (by decide)
  · exact unchanged

/-- A bare value reads back without the blanks at its ends. -/
theorem valueOf_bare
    {value : List Char}
    (bare : isBare value = true) :
    opensBlock (trimStart value) = false ∧ valueOf (trimStart value) [] = trim value := by
  have plain : ∀ c ∈ trimStart value, needsQuotes c = false := by
    intro c member
    exact (of_isBare bare (List.dropWhile_subset _ member)).2
  have plainTrimmed : ∀ c ∈ trim (trimStart value), needsQuotes c = false := by
    rw [trim_trimStart]
    intro c member
    exact plain c ((dropTrailing_isPrefix isBlank (trimStart value)).subset member)
  have closed := opensBlock_of_plain plain
  refine ⟨closed, ?_⟩
  unfold valueOf
  rw [closed, if_neg Bool.false_ne_true, readValue_of_plain plainTrimmed, trim_trimStart]

/-! ## Blocks -/

/-- What a value that is written as a block consists of: a first line, lines between, and a last
line, none of which ends the block early. -/
structure BlockParts (value : List Char) where
  head : Line
  inner : List Line
  last : Line
  value_eq : value = unlines (head :: (inner ++ [last]))
  noFeed : ∀ part ∈ head :: (inner ++ [last]), '\n' ∉ part
  noQuote : '\'' ∉ value
  noReturn : '\r' ∉ value
  plain : ∀ part ∈ inner ++ [last], isEntryLine part = false
  headFilled : trim head ≠ []

theorem exists_blockParts
    {value : List Char}
    (several : value.contains '\n' = true)
    (fits : defeatsBlock value = false) :
    Nonempty (BlockParts value) := by
  obtain ⟨head, tail, split⟩ := List.exists_cons_of_ne_nil (List.splitOn_ne_nil '\n' value)
  have joined : unlines (head :: tail) = value := by
    rw [← split]
    exact unlines_splitOn value
  simp only [defeatsBlock, split, List.drop_succ_cons, List.drop_zero, List.head?_cons,
    Option.any_some, Bool.or_eq_false_iff, List.any_eq_false, List.isEmpty_eq_false_iff] at fits
  obtain ⟨⟨⟨plain, headFilled⟩, noQuoteReturn⟩, _⟩ := fits
  have tailFilled : tail ≠ [] := by
    intro empty
    rw [empty] at split joined
    have headPiece : head ∈ value.splitOn '\n' := by
      rw [split]
      simp
    have headClean : '\n' ∉ head := not_mem_of_mem_splitOn headPiece
    rw [← joined] at several
    simp [unlines, headClean] at several
  obtain ⟨inner, last, tailShape⟩ : ∃ inner last, tail = inner ++ [last] :=
    ⟨tail.dropLast, tail.getLast tailFilled, (List.dropLast_concat_getLast tailFilled).symm⟩
  subst tailShape
  refine ⟨⟨head, inner, last, joined.symm, ?_, ?_, ?_, ?_, headFilled⟩⟩
  · intro part member
    have piece : part ∈ value.splitOn '\n' := by
      rw [split]
      exact member
    exact not_mem_of_mem_splitOn piece
  · intro inside
    simpa using noQuoteReturn _ inside
  · intro inside
    simpa using noQuoteReturn _ inside
  · intro part member
    simpa using plain part member

namespace BlockParts

variable {value : List Char} (parts : BlockParts value)

theorem mem_value
    {part : Line}
    {c : Char}
    (member : part ∈ parts.head :: (parts.inner ++ [parts.last]))
    (inside : c ∈ part) :
    c ∈ value := by
  have pieces : value.splitOn '\n' = parts.head :: (parts.inner ++ [parts.last]) := by
    conv => lhs; rw [parts.value_eq]
    exact List.splitOn_intercalate '\n' parts.noFeed (by simp)
  exact mem_of_mem_splitOn (by rw [pieces]; exact member) inside

/-- The quotes stand at the front of the first line and at the end of the last one. -/
theorem quoted_eq :
    '\'' :: value ++ ['\''] =
      unlines (('\'' :: parts.head) :: (parts.inner ++ [parts.last ++ ['\'']])) := by
  conv => lhs; rw [parts.value_eq]
  rw [← List.cons_append, ← List.cons_append, unlines_concat, unlines_concat]
  simp [terminated]

theorem splitOn_quoted :
    ('\'' :: value ++ ['\'']).splitOn '\n' =
      ('\'' :: parts.head) :: (parts.inner ++ [parts.last ++ ['\'']]) := by
  rw [parts.quoted_eq]
  apply List.splitOn_intercalate '\n'
  · intro part member
    simp only [List.mem_cons, List.mem_append, List.not_mem_nil, or_false] at member
    rcases member with rfl | inInner | rfl
    · simpa using parts.noFeed parts.head (by simp)
    · exact parts.noFeed part (by simp [inInner])
    · simpa using parts.noFeed parts.last (by simp)
  · simp

/-- The first line opens a block: no quote closes it. -/
theorem opens : opensBlock ('\'' :: parts.head) = true := by
  have noQuote : '\'' ∉ parts.head := fun inside =>
    parts.noQuote (parts.mem_value (by simp) inside)
  have filled : dropTrailing isSpaceOrTab parts.head ≠ [] := by
    intro empty
    apply parts.headFilled
    apply trim_eq_nil
    intro c inside
    have spaceOrTab := (dropTrailing_eq_nil_iff isSpaceOrTab parts.head).mp empty c inside
    simp only [isSpaceOrTab, Bool.or_eq_true, beq_iff_eq] at spaceOrTab
    rcases spaceOrTab with rfl | rfl <;> rfl
  unfold opensBlock
  rw [dropTrailing_cons filled, List.getLast?_cons_of_ne_nil filled]
  simp only [List.head?_cons, beq_self_eq_true, Bool.true_and, bne_iff_ne, ne_eq]
  intro atEnd
  exact noQuote ((dropTrailing_isPrefix isSpaceOrTab parts.head).subset
    (List.mem_of_getLast? atEnd))

/-- The lines after the first are the block, whatever follows. -/
theorem takeBlock (rest : List Line) :
    takeBlock (parts.inner ++ [parts.last ++ ['\'']] ++ rest) =
      (parts.inner ++ [parts.last ++ ['\'']], rest) := by
  rw [List.append_assoc]
  apply takeBlock_of_closed
  · intro line member
    refine ⟨parts.plain line (List.mem_append_left _ member), ?_⟩
    have noQuote : '\'' ∉ line := fun inside =>
      parts.noQuote (parts.mem_value (by simp [member]) inside)
    unfold closesBlock
    rw [beq_eq_false_iff_ne]
    intro atEnd
    exact noQuote (List.mem_of_getLast? atEnd)
  · rw [isEntryLine_append_quote]
    exact parts.plain parts.last (by simp)
  · simp [closesBlock]

theorem valueOf_block :
    valueOf ('\'' :: parts.head) (parts.inner ++ [parts.last ++ ['\'']]) = value := by
  have unquoted : unquoteLast (parts.inner ++ [parts.last ++ ['\'']]) =
      parts.inner ++ [parts.last] := by
    simp [unquoteLast, closesBlock]
  unfold valueOf
  rw [if_pos parts.opens, unquoted]
  exact parts.value_eq.symm

end BlockParts

/-! ## Printed entries -/

/-- The entry that a printed one is read as: its first line and the lines of its block. -/
def printedEntry (key value : String) : Entry :=
  let parts := (writtenValue value.toList).splitOn '\n'
  ⟨key, trimStart (parts.headD []), key.toList ++ '=' :: parts.headD [], parts.tail⟩

/-- What a value reads back as after it was printed: a bare value loses the blanks at its ends. -/
def readBack (value : String) : String :=
  if isBare value.toList then String.ofList (trim value.toList) else value

/-- The lines of a printed entry. -/
def printedLines (key value : String) : List Line := (Item.entry (printedEntry key value)).lines

@[simp] theorem printedEntry_key (key value : String) : (printedEntry key value).key = key := rfl

theorem printedLines_eq (key value : String) :
    printedLines key value =
      (key.toList ++ '=' :: ((writtenValue value.toList).splitOn '\n').headD []) ::
        ((writtenValue value.toList).splitOn '\n').tail :=
  rfl

/-- A printed entry with a line feed after it is its lines with one after each. -/
theorem printEntry_append_feed (key value : String) :
    (printEntry key value).toList ++ ['\n'] = terminated (printedLines key value) := by
  obtain ⟨head, tail, split⟩ :=
    List.exists_cons_of_ne_nil (List.splitOn_ne_nil '\n' (writtenValue value.toList))
  have written : writtenValue value.toList ++ ['\n'] = terminated (head :: tail) := by
    rw [← split]
    exact append_feed_eq_terminated _
  have text : (printEntry key value).toList = key.toList ++ '=' :: writtenValue value.toList := by
    simp [printEntry]
  rw [text, List.append_assoc, List.cons_append, written, printedLines_eq, split]
  simp [terminated]

theorem writtenValue_cases (value : List Char) :
    (isBare value = true ∧ writtenValue value = value) ∨
      (isBare value = false ∧ writtenValue value = doubleQuoted value) ∨
      (isBare value = false ∧ Nonempty (BlockParts value) ∧
        writtenValue value = '\'' :: value ++ ['\'']) := by
  unfold writtenValue
  by_cases several : value.contains '\n' = true
  · have notBare : isBare value = false := by
      have inside : '\n' ∈ value := by simpa using several
      simp only [isBare, Bool.not_eq_false', List.any_eq_true, Bool.or_eq_true, beq_iff_eq]
      exact ⟨'\n', inside, .inl rfl⟩
    rw [if_pos several]
    by_cases defeats : defeatsBlock value = true
    · rw [if_pos defeats]
      exact .inr (.inl ⟨notBare, rfl⟩)
    · rw [if_neg defeats]
      exact .inr (.inr ⟨notBare, exists_blockParts several (by simpa using defeats), rfl⟩)
  · rw [if_neg several]
    have single : '\n' ∉ value := by simpa using several
    by_cases quotes : value.any needsQuotes = true
    · rw [if_pos quotes]
      refine .inr (.inl ⟨?_, rfl⟩)
      obtain ⟨c, inside, needs⟩ := List.any_eq_true.mp quotes
      simp only [isBare, Bool.not_eq_false', List.any_eq_true, Bool.or_eq_true]
      exact ⟨c, inside, .inr needs⟩
    · rw [if_neg quotes]
      refine .inl ⟨?_, rfl⟩
      simp only [isBare, Bool.not_eq_true', List.any_eq_false, Bool.or_eq_true, beq_iff_eq,
        not_or]
      intro c inside
      refine ⟨fun isFeed => single (isFeed ▸ inside), ?_⟩
      simp only [List.any_eq_true, not_exists, not_and] at quotes
      exact quotes c inside

theorem printedEntry_of_single
    {value : String}
    (single : '\n' ∉ writtenValue value.toList)
    (key : String) :
    (printedEntry key value).raw = trimStart (writtenValue value.toList) ∧
      (printedEntry key value).block = [] := by
  unfold printedEntry
  rw [List.splitOn_eq_singleton single]
  exact ⟨rfl, rfl⟩

/-- A printed entry has the value that its value reads back as.  It stands on one line, or it is a
block that ends with its own last line, whatever follows. -/
theorem printedEntry_reads (key value : String) :
    (printedEntry key value).value = readBack value ∧
      ((opensBlock (printedEntry key value).raw = false ∧ (printedEntry key value).block = []) ∨
        (opensBlock (printedEntry key value).raw = true ∧ ∀ rest,
          takeBlock ((printedEntry key value).block ++ rest) =
            ((printedEntry key value).block, rest))) := by
  unfold Entry.value readBack
  rcases writtenValue_cases value.toList with ⟨bare, written⟩ | ⟨notBare, written⟩ |
    ⟨notBare, ⟨parts⟩, written⟩
  · have single : '\n' ∉ writtenValue value.toList := by
      rw [written]
      intro inside
      exact (of_isBare bare inside).1 rfl
    obtain ⟨raw, block⟩ := printedEntry_of_single single key
    rw [raw, block, written, bare]
    obtain ⟨closed, value_eq⟩ := valueOf_bare bare
    exact ⟨by simp [value_eq], .inl ⟨closed, rfl⟩⟩
  · have single : '\n' ∉ writtenValue value.toList := by
      rw [written]
      intro inside
      exact (not_lineEnd_of_mem_doubleQuoted inside).1 rfl
    obtain ⟨raw, block⟩ := printedEntry_of_single single key
    rw [raw, block, written, notBare]
    obtain ⟨closed, value_eq⟩ := valueOf_doubleQuoted value.toList
    exact ⟨by simp [value_eq], .inl ⟨closed, rfl⟩⟩
  · have shape : (printedEntry key value).raw = '\'' :: parts.head ∧
        (printedEntry key value).block = parts.inner ++ [parts.last ++ ['\'']] := by
      unfold printedEntry
      rw [written, parts.splitOn_quoted]
      exact ⟨rfl, rfl⟩
    rw [shape.1, shape.2, notBare]
    exact ⟨by simp [parts.valueOf_block], .inr ⟨parts.opens, parts.takeBlock⟩⟩

/-- A printed entry is read as one item, whatever follows. -/
theorem itemsOf_printedLines
    {key : String}
    (validKey : isRequestKey key = true)
    (value : String)
    (rest : List Line) :
    itemsOf (printedLines key value ++ rest) =
      .entry (printedEntry key value) :: itemsOf rest := by
  have found : EntryLine.ofLine? (printedEntry key value).line =
      some ⟨key, (printedEntry key value).raw⟩ :=
    ofLine?_assignment validKey _
  unfold printedLines Item.lines
  rw [List.cons_append]
  rcases (printedEntry_reads key value).2 with ⟨closed, empty⟩ | ⟨opens, takes⟩
  · rw [itemsOf_single found closed, empty, List.nil_append, ← empty]
    rfl
  · rw [itemsOf_block found opens, takes rest]
    rfl

/-- The first line of a printed entry is an entry line. -/
theorem endsBlock_printedLines
    {key : String}
    (validKey : isRequestKey key = true)
    (value : String)
    (rest : List Line) :
    EndsBlock (printedLines key value ++ rest) := by
  simp only [EndsBlock, printedLines_eq, List.cons_append, List.head?_cons, Option.all_some,
    isEntryLine]
  rw [ofLine?_assignment validKey]
  rfl

theorem not_return_of_mem_writtenValue
    {value : List Char}
    {c : Char}
    (member : c ∈ writtenValue value) :
    c ≠ '\r' := by
  rcases writtenValue_cases value with ⟨bare, written⟩ | ⟨_, written⟩ | ⟨_, ⟨parts⟩, written⟩
  · rw [written] at member
    intro isReturn
    exact absurd (of_isBare bare member).2 (by simp [isReturn, needsQuotes])
  · rw [written] at member
    exact (not_lineEnd_of_mem_doubleQuoted member).2
  · rw [written] at member
    simp only [List.cons_append, List.mem_cons, List.mem_append, List.not_mem_nil,
      or_false] at member
    rcases member with quote | inside | quote
    · subst quote
      decide
    · intro isReturn
      exact parts.noReturn (isReturn ▸ inside)
    · subst quote
      decide

/-- The lines of a printed entry are given back when its text is split into lines. -/
theorem isWhole_printedLines
    {key : String}
    (validKey : isRequestKey key = true)
    (value : String) :
    ∀ line ∈ printedLines key value, IsWhole line := by
  have keyClean : ∀ c ∈ key.toList, c ≠ '\n' ∧ c ≠ '\r' := by
    intro c member
    have continues := continuesRequest_of_mem_key validKey member
    constructor
    · rintro rfl
      contradiction
    · rintro rfl
      contradiction
  have pieceWhole : ∀ piece ∈ (writtenValue value.toList).splitOn '\n',
      '\n' ∉ piece ∧ '\r' ∉ piece := by
    intro piece member
    refine ⟨not_mem_of_mem_splitOn member, ?_⟩
    intro inside
    exact not_return_of_mem_writtenValue (mem_of_mem_splitOn member inside) rfl
  obtain ⟨head, tail, split⟩ :=
    List.exists_cons_of_ne_nil (List.splitOn_ne_nil '\n' (writtenValue value.toList))
  rw [printedLines_eq, split]
  rw [split] at pieceWhole
  intro line member
  rcases List.mem_cons.mp member with isFirst | inTail
  · have headWhole := pieceWhole head (by simp)
    rw [isFirst]
    apply isWhole_of_not_mem
    · simp only [List.headD_cons, List.mem_append, List.mem_cons, not_or]
      exact ⟨fun inKey => (keyClean '\n' inKey).1 rfl, by decide, headWhole.1⟩
    · simp only [List.headD_cons, List.mem_append, List.mem_cons, not_or]
      exact ⟨fun inKey => (keyClean '\r' inKey).2 rfl, by decide, headWhole.2⟩
  · have lineWhole := pieceWhole line (List.mem_cons_of_mem head inTail)
    exact isWhole_of_not_mem lineWhole.1 lineWhole.2

end SealedEnv.EnvFile
