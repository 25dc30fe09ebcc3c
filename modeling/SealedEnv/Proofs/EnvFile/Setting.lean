import SealedEnv.EnvFile.Storage
import SealedEnv.Proofs.EnvFile.RoundTrip
import SealedEnv.Proofs.Store.Rewriting

/-!
Contract: setting a key in the text of an env file sets it in the map that the text denotes.

Owns:
- the agreement of the updater's count of a block's lines with the reader's division;
- the new text as the old items, with the new entry in place of those of the key;
- the law that the new text is divided into just these items;
- the file that holds the new text after a write that succeeds.

Does not own: what else the write does to the store.
-/

namespace SealedEnv.EnvFile

open Text

/-! ## Spans -/

/-- The updater counts the lines that the reader takes. -/
theorem countBlock_eq (count : Nat) (lines : List Line) :
    countBlock count lines = count + (takeBlock lines).1.length := by
  induction lines generalizing count with
  | nil => simp [countBlock]
  | cons line rest inductionHypothesis =>
      rw [countBlock, takeBlock_cons]
      split
      · simp
      · split
        · simp
        · rw [inductionHypothesis]
          simp only [List.length_cons]
          omega

/-- The lines that the updater passes over with an entry line are those of the block that the line
opens. -/
theorem take_drop_spanAfter
    {raw : List Char}
    (opens : opensBlock raw = true)
    (rest : List Line) :
    rest.take (spanAfter raw rest) = (takeBlock rest).1 ∧
      rest.drop (spanAfter raw rest) = (takeBlock rest).2 := by
  have size : spanAfter raw rest = (takeBlock rest).1.length := by
    unfold spanAfter
    rw [if_pos opens, countBlock_eq, Nat.zero_add]
  have whole := takeBlock_append_eq rest
  rw [size]
  constructor
  · conv => lhs; arg 2; rw [← whole]
    exact List.take_left
  · conv => lhs; arg 2; rw [← whole]
    exact List.drop_left

theorem spanAfter_of_single
    {raw : List Char}
    (closed : opensBlock raw = false)
    (rest : List Line) :
    spanAfter raw rest = 0 := by
  unfold spanAfter
  rw [if_neg (by simp [closed])]

/-! ## Items in place of items -/

/-- Holds of an item that sets the key. -/
def Item.sets (key : String) : Item → Bool
  | .entry held => held.key = key
  | .other _ => false

/-- The item's lines, or the new entry as one line if the item sets the key. -/
def Item.replaced (key : String) (written : Line) (item : Item) : List Line :=
  if item.sets key then [written] else item.lines

/-- The item, or the entry that the new one is read as if the item sets the key. -/
def Item.setTo (key value : String) (item : Item) : Item :=
  if item.sets key then .entry (printedEntry key value) else item

section SetTo

variable (key value : String)

@[simp] theorem Item.setTo_other (line : Line) :
    Item.setTo key value (.other line) = .other line := rfl

theorem Item.setTo_of_key_eq
    {entry : Entry}
    (same : entry.key = key) :
    Item.setTo key value (.entry entry) = .entry (printedEntry key value) := by
  simp [Item.setTo, Item.sets, same]

theorem Item.setTo_of_key_ne
    {entry : Entry}
    (different : entry.key ≠ key) :
    Item.setTo key value (.entry entry) = .entry entry := by
  simp [Item.setTo, Item.sets, different]

end SetTo

/-- The items with the new entry in place of each old one of the key, and at the end if there was
none. -/
def setItems (key value : String) (old : List Item) : List Item :=
  old.map (Item.setTo key value) ++
    if old.any (Item.sets key) then [] else [.entry (printedEntry key value)]

section NewItems

variable (key value : String)

/-- The new items are the new entry and those old ones that do not set the key. -/
theorem mem_setItems_iff {old : List Item} {item : Item} :
    item ∈ setItems key value old ↔
      item = .entry (printedEntry key value) ∨ (item ∈ old ∧ item.sets key = false) := by
  unfold setItems
  rw [List.mem_append, List.mem_map]
  constructor
  · rintro (⟨before, member, rfl⟩ | isLast)
    · unfold Item.setTo
      split
      · exact .inl rfl
      · rename_i other
        exact .inr ⟨member, by simpa using other⟩
    · split at isLast
      · simp at isLast
      · exact .inl (List.mem_singleton.mp isLast)
  · rintro (rfl | ⟨member, other⟩)
    · split
      · rename_i present
        obtain ⟨before, member, sets⟩ := List.any_eq_true.mp present
        exact .inl ⟨before, member, by rw [Item.setTo, if_pos sets]⟩
      · exact .inr List.mem_cons_self
    · exact .inl ⟨item, member, by rw [Item.setTo, if_neg (by simp [other])]⟩

theorem sets_printedEntry : Item.sets key (.entry (printedEntry key value)) = true := by
  simp [Item.sets]

end NewItems

/-- The updater goes from item to item. -/
theorem replaceAfter_eq
    (key : String)
    (written : Line)
    (found : Bool)
    (done lines : List Line) :
    replaceAfter key written found done lines =
      done.reverse ++ (itemsOf lines).flatMap (Item.replaced key written) ++
        if found || (itemsOf lines).any (Item.sets key) then [] else [written] := by
  induction lines using division_induction generalizing found done with
  | nil =>
      rw [replaceAfter]
      cases found <;> simp
  | other line rest none inductionHypothesis =>
      rw [replaceAfter, none, itemsOf_other none]
      simp only []
      rw [inductionHypothesis]
      simp [Item.replaced, Item.sets, Item.lines]
  | single line rest held raw entry closed inductionHypothesis =>
      rw [replaceAfter, entry, itemsOf_single entry closed]
      simp only [spanAfter_of_single closed, List.drop_zero, List.take_zero]
      rw [inductionHypothesis, inductionHypothesis]
      by_cases same : held = key
      · simp [Item.replaced, Item.sets, same]
      · simp [Item.replaced, Item.sets, Item.lines, same]
  | block line rest held raw entry opens inductionHypothesis =>
      obtain ⟨taken, dropped⟩ := take_drop_spanAfter opens rest
      rw [replaceAfter, entry, itemsOf_block entry opens]
      simp only [taken, dropped]
      rw [inductionHypothesis, inductionHypothesis]
      by_cases same : held = key
      · simp [Item.replaced, Item.sets, same]
      · simp [Item.replaced, Item.sets, Item.lines, same, List.reverseAux_eq]

/-- The lines of an updated text are the old ones, with the new entry in place of each span of lines
that holds one of the key, and at the end if there was none. -/
theorem updatedLines_eq (text key value : String) :
    updatedLines text key value =
      (items text).flatMap (Item.replaced key (printEntry key value).toList) ++
        if (items text).any (Item.sets key) then [] else [(printEntry key value).toList] := by
  unfold updatedLines
  rw [replaceAfter_eq]
  simp [items]

theorem updatedLines_ne_nil (text key value : String) : updatedLines text key value ≠ [] := by
  rw [updatedLines_eq]
  by_cases present : (items text).any (Item.sets key) = true
  · obtain ⟨item, member, sets⟩ := List.any_eq_true.mp present
    have written : (printEntry key value).toList ∈
        (items text).flatMap (Item.replaced key (printEntry key value).toList) :=
      List.mem_flatMap.mpr ⟨item, member, by simp [Item.replaced, sets]⟩
    simp [List.ne_nil_of_mem written]
  · simp [present]

/-- An updated text is made of the lines of the new items. -/
theorem update_toList (text key value : String) :
    (update text key value).toList =
      terminated ((setItems key value (items text)).flatMap Item.lines) := by
  have newEntry : terminated [(printEntry key value).toList] =
      terminated (Item.entry (printedEntry key value)).lines := by
    rw [← printedLines, ← printEntry_append_feed]
    simp [terminated]
  have replaced : ∀ old : List Item,
      terminated (old.flatMap (Item.replaced key (printEntry key value).toList)) =
        terminated ((old.map (Item.setTo key value)).flatMap Item.lines) := by
    intro old
    induction old with
    | nil => rfl
    | cons item rest inductionHypothesis =>
        rw [List.flatMap_cons, terminated_append, inductionHypothesis, List.map_cons,
          List.flatMap_cons, terminated_append]
        congr 1
        unfold Item.replaced Item.setTo
        split
        · exact newEntry
        · rfl
  unfold update
  rw [String.toList_ofList, unlines_append_feed (updatedLines_ne_nil text key value),
    updatedLines_eq, terminated_append, replaced, setItems, List.flatMap_append, terminated_append]
  congr 1
  split
  · rfl
  · simpa using newEntry

/-! ## Reading the new items -/

/-- What ends a block still does after the key was set in it. -/
theorem endsBlock_setTo
    {key : String}
    (validKey : isRequestKey key = true)
    (value : String)
    {lines : List Line}
    (ends : EndsBlock lines) :
    EndsBlock (((itemsOf lines).map (Item.setTo key value)).flatMap Item.lines) := by
  have entryFirst : ∀ (entry : Entry) (rest : List Item), isEntryLine entry.line = true →
      EndsBlock (((Item.entry entry :: rest).map (Item.setTo key value)).flatMap Item.lines) := by
    intro entry rest isEntry
    rw [List.map_cons, List.flatMap_cons]
    unfold Item.setTo
    split
    · exact endsBlock_printedLines validKey value _
    · simpa [EndsBlock, Item.lines] using isEntry
  cases lines with
  | nil =>
      rw [itemsOf_nil]
      rfl
  | cons line rest =>
      have isEntry : isEntryLine line = true := by simpa [EndsBlock] using ends
      obtain ⟨⟨held, raw⟩, found⟩ := Option.isSome_iff_exists.mp isEntry
      cases opens : opensBlock raw with
      | false =>
          rw [itemsOf_single found opens]
          exact entryFirst _ _ isEntry
      | true =>
          rw [itemsOf_block found opens]
          exact entryFirst _ _ isEntry

/-- The lines of the new items are divided into just these items: no block takes a line more or
less than it did. -/
theorem itemsOf_setTo
    {key : String}
    (validKey : isRequestKey key = true)
    (value : String)
    (lines : List Line) :
    itemsOf (((itemsOf lines).map (Item.setTo key value)).flatMap Item.lines) =
      (itemsOf lines).map (Item.setTo key value) := by
  induction lines using division_induction with
  | nil => simp
  | other line rest found inductionHypothesis =>
      rw [itemsOf_other found, List.map_cons, List.flatMap_cons, Item.setTo_other, Item.lines,
        List.singleton_append, itemsOf_other found, inductionHypothesis]
  | single line rest held raw found closed inductionHypothesis =>
      rw [itemsOf_single found closed, List.map_cons, List.flatMap_cons]
      by_cases same : held = key
      · rw [Item.setTo_of_key_eq key value same, ← printedLines, itemsOf_printedLines validKey,
          inductionHypothesis]
      · rw [Item.setTo_of_key_ne key value same, Item.lines, List.singleton_append,
          itemsOf_single found closed, inductionHypothesis]
  | block line rest held raw found opens inductionHypothesis =>
      rw [itemsOf_block found opens, List.map_cons, List.flatMap_cons]
      by_cases same : held = key
      · rw [Item.setTo_of_key_eq key value same, ← printedLines, itemsOf_printedLines validKey,
          inductionHypothesis]
      · -- An open block ends where it did, since what follows still begins with an entry line.
        have sameBlock := takeBlock_replace rest (endsBlock_setTo validKey value)
        rw [Item.setTo_of_key_ne key value same, Item.lines, List.cons_append,
          itemsOf_block found opens, sameBlock, inductionHypothesis]

/-- The lines of the new items, with an entry at the end where none of the key was there, are
divided into just these items. -/
theorem itemsOf_setItems
    {key : String}
    (validKey : isRequestKey key = true)
    (value : String)
    (lines : List Line) :
    itemsOf ((setItems key value (itemsOf lines)).flatMap Item.lines) =
      setItems key value (itemsOf lines) := by
  unfold setItems
  rw [List.flatMap_append]
  split
  · simpa using itemsOf_setTo validKey value lines
  · have ends : EndsBlock (([Item.entry (printedEntry key value)]).flatMap Item.lines) := by
      simpa [printedLines] using endsBlock_printedLines validKey value []
    have last : itemsOf (([Item.entry (printedEntry key value)]).flatMap Item.lines) =
        [.entry (printedEntry key value)] := by
      simpa [printedLines] using itemsOf_printedLines validKey value []
    rw [itemsOf_append _ ends, itemsOf_setTo validKey, last]

theorem isWhole_setItems
    {text : String}
    (noReturns : ∀ line ∈ lines text.toList, line.getLast? ≠ some '\r')
    {key : String}
    (validKey : isRequestKey key = true)
    (value : String) :
    ∀ line ∈ (setItems key value (items text)).flatMap Item.lines, IsWhole line := by
  have newWhole : ∀ line ∈ (Item.entry (printedEntry key value)).lines, IsWhole line :=
    isWhole_printedLines validKey value
  intro line member
  obtain ⟨item, inItems, inside⟩ := List.mem_flatMap.mp member
  rcases (mem_setItems_iff key value).mp inItems with rfl | ⟨inOld, -⟩
  · exact newWhole line inside
  · have oldLine : line ∈ lines text.toList := by
      rw [← flatMap_lines_itemsOf (lines text.toList)]
      exact List.mem_flatMap.mpr ⟨item, inOld, inside⟩
    exact ⟨not_mem_of_mem_lines oldLine, noReturns line oldLine⟩

theorem items_update
    {text : String}
    (noReturns : ∀ line ∈ lines text.toList, line.getLast? ≠ some '\r')
    {key : String}
    (validKey : isRequestKey key = true)
    (value : String) :
    items (update text key value) = setItems key value (items text) := by
  have divided := itemsOf_setItems validKey value (lines text.toList)
  unfold items at *
  rw [update_toList, lines_terminated (isWhole_setItems noReturns validKey value)]
  exact divided

theorem update_noReturns
    {text : String}
    (noReturns : ∀ line ∈ lines text.toList, line.getLast? ≠ some '\r')
    {key : String}
    (validKey : isRequestKey key = true)
    (value : String) :
    ∀ line ∈ lines (update text key value).toList, line.getLast? ≠ some '\r' := by
  have whole := isWhole_setItems noReturns validKey value
  rw [update_toList, lines_terminated whole]
  intro line member
  exact (whole line member).2

/-! ## The map after a key was set -/

/-- The pairs of the new items are the old ones, with what the new value reads back as in each pair
of the key. -/
theorem filterMap_setItems (key value : String) (old : List Item) :
    (setItems key value old).filterMap Item.pair? =
      EnvMap.setPairs key (readBack value) (old.filterMap Item.pair?) := by
  have newPair : Item.pair? (.entry (printedEntry key value)) = some (key, readBack value) := by
    simp [Item.pair?, Item.entry?, (printedEntry_reads key value).1]
  have replaced : (old.map (Item.setTo key value)).filterMap Item.pair? =
      (old.filterMap Item.pair?).map
        fun pair => if pair.1 = key then (key, readBack value) else pair := by
    rw [List.filterMap_map, List.map_filterMap]
    congr 1
    funext item
    cases item with
    | other line => rfl
    | entry held =>
        rw [Function.comp_apply]
        by_cases same : held.key = key
        · rw [Item.setTo_of_key_eq key value same, newPair]
          simp [Item.pair?, Item.entry?, same]
        · rw [Item.setTo_of_key_ne key value same]
          simp [Item.pair?, Item.entry?, same]
  have present : old.any (Item.sets key) =
      (old.filterMap Item.pair?).any fun pair => pair.1 = key := by
    rw [List.any_filterMap]
    congr 1
    funext item
    cases item <;> simp [Item.sets, Item.pair?, Item.entry?]
  unfold setItems EnvMap.setPairs
  rw [List.filterMap_append, replaced, present]
  congr 1
  split
  · rfl
  · rw [List.filterMap_cons_some newPair, List.filterMap_nil]

/-- Setting a key in a text sets it in the map that the text denotes, to what the value reads back
as. -/
theorem parse_update
    {text : String}
    (noReturns : ∀ line ∈ lines text.toList, line.getLast? ≠ some '\r')
    {key : String}
    (validKey : isRequestKey key = true)
    (value : String) :
    parse (update text key value) = (parse text).insert key (readBack value) := by
  unfold parse
  rw [pairs_eq, items_update noReturns validKey value, filterMap_setItems, ← pairs_eq,
    EnvMap.ofList_setPairs]

/-- Setting a key in a text sets it in the map that the text denotes. -/
theorem parse_update_eq_insert
    {text : String}
    (noReturns : ∀ line ∈ lines text.toList, line.getLast? ≠ some '\r')
    {key : String}
    (validKey : isRequestKey key = true)
    {value : String}
    (plainEnds : hasPlainEnds value = true) :
    parse (update text key value) = (parse text).insert key value := by
  rw [parse_update noReturns validKey, readBack_of_hasPlainEnds plainEnds]

/-- The text at the end of a path.  A missing file counts as an empty one. -/
theorem storedText_apply
    {path : Path}
    {text : String}
    {world : World}
    (held : world.store.readText world.here path = .ok text ∨
      (text = "" ∧ world.store.readText world.here path = .error (.os .noEntry))) :
    storedText path world = (.ok text, world) := by
  rcases held with found | ⟨rfl, missing⟩
  · exact Action.tryCatch_of_ok (by rw [Action.ask_apply, found]) _
  · have asked : Action.ask (fun store here => store.readText here path) world =
        (.error (.os .noEntry), world) := by
      rw [Action.ask_apply, missing]
    exact Action.tryCatch_of_error asked _

/-- Looking for a text changes nothing, whether there is one or not. -/
theorem storedText_unchanged (path : Path) (world : World) : (storedText path world).2 = world := by
  have asked := Action.ask_apply (fun store here => store.readText here path) world
  unfold storedText
  cases held : world.store.readText world.here path with
  | ok text =>
      rw [held] at asked
      rw [Action.tryCatch_of_ok asked]
  | error cause =>
      rw [held] at asked
      rw [Action.tryCatch_of_error asked]
      split <;> rfl

theorem load_apply (path : Path) (world : World) :
    load path world = ((storedText path world).1.map parse, world) := by
  have unchanged := storedText_unchanged path world
  unfold load
  rcases outcome : storedText path world with ⟨cause | text, after⟩
  · rw [outcome] at unchanged
    rw [Action.bind_of_error outcome, ← unchanged]
    rfl
  · rw [outcome] at unchanged
    rw [Action.bind_of_ok outcome, ← unchanged]
    rfl

/-- Setting a key in the file at the end of a path replaces the file by the updated text. -/
theorem setKey_eq_writeAtomicWithin
    {path : Path}
    {text : String}
    {world : World}
    (held : world.store.readText world.here path = .ok text ∨
      (text = "" ∧ world.store.readText world.here path = .error (.os .noEntry)))
    (key value : String) :
    setKey path key value world =
      writeAtomicWithin path (Utf8.encode (update text key value)) fileMode world :=
  Action.bind_of_ok (storedText_apply held) _

/-- A key that was set is in a file, which the path leads to if it led to one before. -/
theorem held_of_setKey
    {path : Path}
    {text : String}
    {world after : World}
    (held : world.store.readText world.here path = .ok text ∨
      (text = "" ∧ world.store.readText world.here path = .error (.os .noEntry)))
    {key value : String}
    (succeeds : setKey path key value world = (.ok (), after)) :
    (∃ place, after.store.look place =
        some (.file fileMode (Utf8.encode (update text key value)))) ∧
      (world.store.readText world.here path = .ok text →
        after.store.readText after.here path = .ok (update text key value)) := by
  rw [setKey_eq_writeAtomicWithin held] at succeeds
  constructor
  · obtain ⟨_, directory, name, -, -, -, looks⟩ := writeAtomicWithin_eq_ok succeeds
    exact ⟨name :: directory, by rw [looks, if_pos rfl]⟩
  · intro reads
    obtain ⟨-, place, rewritable, isFile⟩ := rewritable_of_writeAtomicWithin reads succeeds
    exact rewritable.readText isFile

/-- Setting a key in a file sets it in the map that the file denotes: the text that is written, and
then read, denotes the old map with the new value, and it is the old lines in order, with the new
entry in place of each span of lines that is read as an entry of the key. -/
theorem setKey_refines_insert
    {text : String}
    (noReturns : ∀ line ∈ lines text.toList, line.getLast? ≠ some '\r')
    {key : String}
    (validKey : isRequestKey key = true)
    {value : String}
    (plainEnds : hasPlainEnds value = true) :
    (∀ (path : Path) (world : World),
      (world.store.readText world.here path = .ok text ∨
        (text = "" ∧ world.store.readText world.here path = .error (.os .noEntry))) →
      setKey path key value world =
          writeAtomicWithin path (Utf8.encode (update text key value)) fileMode world ∧
        ∀ after, setKey path key value world = (.ok (), after) →
          (∃ place, after.store.look place =
            some (.file fileMode (Utf8.encode (update text key value)))) ∧
          (world.store.readText world.here path = .ok text →
            after.store.readText after.here path = .ok (update text key value))) ∧
      parse (update text key value) = (parse text).insert key value ∧
      (∀ other, other ≠ key →
        (parse (update text key value)).get? other = (parse text).get? other) ∧
      lines text.toList = (items text).flatMap Item.lines ∧
      update text key value = String.ofList
        (unlines ((items text).flatMap (Item.replaced key (printEntry key value).toList) ++
          if (items text).any (Item.sets key) then [] else [(printEntry key value).toList]) ++
            ['\n']) := by
  have inserted := parse_update_eq_insert noReturns validKey plainEnds
  refine ⟨?_, inserted, ?_, (flatMap_lines_itemsOf (lines text.toList)).symm, ?_⟩
  · intro path world held
    exact ⟨setKey_eq_writeAtomicWithin held key value, fun after => held_of_setKey held⟩
  · intro other different
    rw [inserted, EnvMap.get?_insert, if_neg different]
  · unfold update
    rw [updatedLines_eq]

/-- A key that is set twice, once in a block that only the next entry ends. -/
theorem setKey_refines_insert_openBlock :
    let text := "# note\nA='one\ntwo\nB=1\njunk\nA=x"
    (∀ line ∈ lines text.toList, line.getLast? ≠ some '\r') ∧
      isRequestKey "A" = true ∧ hasPlainEnds "new\nA=x" = true ∧
      parse (update text "A" "new\nA=x") = (parse text).insert "A" "new\nA=x" ∧
      (parse (update text "A" "new\nA=x")).get? "B" = (parse text).get? "B" := by
  intro text
  have noReturns : ∀ line ∈ lines text.toList, line.getLast? ≠ some '\r' := by decide
  have validKey : isRequestKey "A" = true := by decide
  have plainEnds : hasPlainEnds "new\nA=x" = true := by decide
  obtain ⟨_, inserted, kept, _⟩ := setKey_refines_insert noReturns validKey plainEnds
  exact ⟨noReturns, validKey, plainEnds, inserted, kept "B" (by decide)⟩

end SealedEnv.EnvFile
