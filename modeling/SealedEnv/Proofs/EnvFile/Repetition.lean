import SealedEnv.Proofs.EnvFile.Setting
import SealedEnv.Proofs.Store.Rewriting

/-!
Contract: what setting a key once more does to an env file.

Owns:
- the law that a carriage return at the end of a line does not change its key;
- the entries of one key among the items of some lines, whatever the other lines are;
- `keptLines`, the lines that setting a key leaves where they are;
- the law that the second time changes the text exactly if a kept line ends in a carriage return;
- the same for a file in a store, where the second time succeeds.

Does not own: what the first time does.
-/

namespace SealedEnv.EnvFile

open Text

/-! ## Keys of lines -/

/-- A carriage return after a line is a blank after its value. -/
theorem keyOf?_dropReturn (line : Line) : keyOf? (dropReturn line) = keyOf? line := by
  unfold dropReturn
  split
  · rename_i ends
    conv => rhs; rw [← List.dropLast_append_getLast? '\r' ends]
    exact (keyOf?_append_singleton rfl line.dropLast).symm
  · rfl

/-! ## The entries of a key -/

/-- The items of some lines that set a key. -/
def entriesOf (key : String) (lines : List Line) : List Item :=
  (itemsOf lines).filter (Item.sets key)

section Key

variable {key : String}

/-- A block holds no entries, so it makes no difference which of its lines it takes. -/
theorem entriesOf_takeBlock (lines : List Line) :
    entriesOf key (takeBlock lines).2 = entriesOf key lines := by
  unfold entriesOf
  rw [← List.filterMap_eq_filter]
  apply filterMap_itemsOf_takeBlock
  intro line
  simp [Option.guard, Item.sets]

/-- A line of another key, or of none, comes before the same entries as it would have without
it. -/
theorem entriesOf_cons
    {line : Line}
    (different : keyOf? line ≠ some key)
    (rest : List Line) :
    entriesOf key (line :: rest) = entriesOf key rest := by
  cases found : EntryLine.ofLine? line with
  | none =>
      unfold entriesOf
      rw [itemsOf_other found, List.filter_cons_of_neg (by simp [Item.sets])]
  | some entry =>
      obtain ⟨held, raw⟩ := entry
      have notKey : held ≠ key := by simpa [keyOf?, found] using different
      cases opens : opensBlock raw with
      | false =>
          unfold entriesOf
          rw [itemsOf_single found opens, List.filter_cons_of_neg (by simp [Item.sets, notKey])]
      | true =>
          rw [← entriesOf_takeBlock rest]
          unfold entriesOf
          rw [itemsOf_block found opens, List.filter_cons_of_neg (by simp [Item.sets, notKey])]

theorem entriesOf_append
    {front : List Line}
    (different : ∀ line ∈ front, keyOf? line ≠ some key)
    (rest : List Line) :
    entriesOf key (front ++ rest) = entriesOf key rest := by
  induction front with
  | nil => rfl
  | cons line front inductionHypothesis =>
      rw [List.cons_append, entriesOf_cons (different line List.mem_cons_self)]
      exact inductionHypothesis fun other member =>
        different other (List.mem_cons_of_mem line member)

/-- The lines of an item that sets another key, or none, set other keys, or none. -/
theorem keyOf?_of_mem_item
    {lines : List Line}
    {item : Item}
    (member : item ∈ itemsOf lines)
    (other : item.sets key = false) :
    ∀ line ∈ item.lines, keyOf? line ≠ some key := by
  have plain : ∀ line, EntryLine.ofLine? line = none → keyOf? line ≠ some key := by
    intro line found
    rw [keyOf?_of_none found]
    simp
  have first : ∀ line held raw block, EntryLine.ofLine? line = some ⟨held, raw⟩ →
      Item.sets key (.entry ⟨held, raw, line, block⟩) = false → keyOf? line ≠ some key := by
    intro line held raw block found notKey
    simpa [keyOf?, found, Item.sets] using notKey
  induction lines using division_induction with
  | nil => simp at member
  | other line rest found inductionHypothesis =>
      rw [itemsOf_other found] at member
      rcases List.mem_cons.mp member with rfl | further
      · simpa [Item.lines] using plain line found
      · exact inductionHypothesis further
  | single line rest held raw found closed inductionHypothesis =>
      rw [itemsOf_single found closed] at member
      rcases List.mem_cons.mp member with rfl | further
      · simpa [Item.lines] using first line held raw [] found other
      · exact inductionHypothesis further
  | block line rest held raw found opens inductionHypothesis =>
      rw [itemsOf_block found opens] at member
      rcases List.mem_cons.mp member with rfl | further
      · intro inside isInside
        rcases List.mem_cons.mp isInside with rfl | inBlock
        · exact first inside held raw _ found other
        · exact plain inside (mem_takeBlock inBlock)
      · exact inductionHypothesis further

end Key

/-! ## New items -/

section Items

variable (key value : String)

/-- Setting a key leaves items alone in which it is set to the value, and to nothing else. -/
theorem setItems_eq_self
    {old : List Item}
    (own : ∀ item ∈ old, item.sets key = true → item = .entry (printedEntry key value))
    (present : .entry (printedEntry key value) ∈ old) :
    setItems key value old = old := by
  have found : old.any (Item.sets key) = true :=
    List.any_eq_true.mpr ⟨_, present, sets_printedEntry key value⟩
  unfold setItems
  rw [if_pos found, List.append_nil]
  calc old.map (Item.setTo key value)
      = old.map id := by
        apply List.map_congr_left
        intro item member
        unfold Item.setTo
        split
        · rename_i sets
          exact (own item member sets).symm
        · rfl
    _ = old := List.map_id old

end Items

/-! ## Setting a key once more -/

/-- The lines of a text outside the entries of a key. -/
def keptLines (key text : String) : List Line :=
  ((items text).filter fun item => !item.sets key).flatMap Item.lines

/-- The lines of the new items are those of the new entry and the kept ones. -/
theorem mem_lines_setItems_iff {key value text : String} {line : Line} :
    line ∈ (setItems key value (items text)).flatMap Item.lines ↔
      line ∈ printedLines key value ∨ line ∈ keptLines key text := by
  unfold keptLines
  simp only [List.mem_flatMap, List.mem_filter, Bool.not_eq_true', mem_setItems_iff]
  constructor
  · rintro ⟨item, rfl | kept, inside⟩
    · exact .inl inside
    · exact .inr ⟨item, kept, inside⟩
  · rintro (isNew | ⟨item, kept, inside⟩)
    · exact ⟨_, .inl rfl, isNew⟩
    · exact ⟨item, .inr kept, inside⟩

theorem keptLines_subset (key text : String) : keptLines key text ⊆ lines text.toList := by
  intro line member
  obtain ⟨item, kept, inside⟩ := List.mem_flatMap.mp member
  rw [← flatMap_lines_itemsOf (lines text.toList)]
  exact List.mem_flatMap.mpr ⟨item, (List.mem_filter.mp kept).1, inside⟩

section Again

variable {key : String} (validKey : isRequestKey key = true) (value : String)

include validKey

theorem noFeed_of_mem_setItems (text : String) :
    ∀ line ∈ (setItems key value (items text)).flatMap Item.lines, '\n' ∉ line := by
  intro line member
  rcases mem_lines_setItems_iff.mp member with isNew | kept
  · exact (isWhole_printedLines validKey value line isNew).1
  · exact not_mem_of_mem_lines (keptLines_subset key text kept)

/-- Where lines lose carriage returns, new entries stay as they are and others do not become entries
of the key, whichever blocks open and close. -/
theorem entriesOf_map_dropReturn
    {held : List Item}
    (own : ∀ item ∈ held, item.sets key = true → item = .entry (printedEntry key value))
    (foreign : ∀ item ∈ held, item.sets key = false →
      ∀ line ∈ item.lines, keyOf? line ≠ some key) :
    entriesOf key ((held.flatMap Item.lines).map dropReturn) = held.filter (Item.sets key) := by
  induction held with
  | nil => simp [entriesOf]
  | cons item rest inductionHypothesis =>
      have restEntries := inductionHypothesis
        (fun other member => own other (List.mem_cons_of_mem item member))
        (fun other member => foreign other (List.mem_cons_of_mem item member))
      rw [List.flatMap_cons, List.map_append]
      cases sets : item.sets key with
      | true =>
          have isNew := own item List.mem_cons_self sets
          have whole : item.lines.map dropReturn = printedLines key value := by
            rw [isNew, ← printedLines, List.map_congr_left fun line member =>
              dropReturn_eq_self (isWhole_printedLines validKey value line member).2]
            exact List.map_id _
          rw [whole, entriesOf, itemsOf_printedLines validKey,
            List.filter_cons_of_pos (sets_printedEntry key value), List.filter_cons_of_pos sets,
            ← entriesOf, restEntries, isNew]
      | false =>
          rw [entriesOf_append, restEntries, List.filter_cons_of_neg (by simp [sets])]
          intro line member
          obtain ⟨before, inside, rfl⟩ := List.mem_map.mp member
          rw [keyOf?_dropReturn]
          exact foreign item List.mem_cons_self sets before inside

theorem lines_update (text : String) :
    lines (update text key value).toList =
      ((setItems key value (items text)).flatMap Item.lines).map dropReturn := by
  rw [update_toList, lines_terminated_eq_map (noFeed_of_mem_setItems validKey value text)]

/-- The one entry of the key in an updated text is the new one, once or more often. -/
theorem mem_entriesOf_update_iff (text : String) {item : Item} :
    item ∈ entriesOf key (lines (update text key value).toList) ↔
      item = .entry (printedEntry key value) := by
  have entries : entriesOf key (lines (update text key value).toList) =
      (setItems key value (items text)).filter (Item.sets key) := by
    rw [lines_update validKey]
    apply entriesOf_map_dropReturn validKey value
    · intro held member sets
      rcases (mem_setItems_iff key value).mp member with isNew | ⟨-, other⟩
      · exact isNew
      · rw [sets] at other
        contradiction
    · intro held member other
      rcases (mem_setItems_iff key value).mp member with rfl | ⟨inOld, -⟩
      · rw [sets_printedEntry] at other
        contradiction
      · exact keyOf?_of_mem_item inOld other
  rw [entries, List.mem_filter, mem_setItems_iff]
  constructor
  · rintro ⟨isNew | ⟨-, other⟩, sets⟩
    · exact isNew
    · rw [sets] at other
      contradiction
  · rintro rfl
    exact ⟨.inl rfl, sets_printedEntry key value⟩

/-- The items of an updated text stay as they are when the key is set once more. -/
theorem setItems_update (text : String) :
    setItems key value (items (update text key value)) = items (update text key value) := by
  apply setItems_eq_self
  · intro item member sets
    exact (mem_entriesOf_update_iff validKey value text).mp (List.mem_filter.mpr ⟨member, sets⟩)
  · have isEntry := (mem_entriesOf_update_iff validKey value text).mpr rfl
    exact (List.mem_filter.mp isEntry).1

/-- Setting a key once more drops the carriage returns at the ends of lines, one of each, and does
nothing else. -/
theorem toList_update_update (text : String) :
    (update (update text key value) key value).toList =
      terminated (((setItems key value (items text)).flatMap Item.lines).map dropReturn) := by
  rw [update_toList, setItems_update validKey, items, flatMap_lines_itemsOf, lines_update validKey]

/-- Setting a key once more leaves the text as it is exactly if none of the kept lines ends in a
carriage return still, after the one that each line end took with it. -/
theorem update_update_eq_iff (text : String) :
    update (update text key value) key value = update text key value ↔
      ∀ line ∈ keptLines key text, line.getLast? ≠ some '\r' := by
  have noFeed := noFeed_of_mem_setItems validKey value text
  have dropped : ∀ line ∈ ((setItems key value (items text)).flatMap Item.lines).map dropReturn,
      '\n' ∉ line := by
    intro line member inside
    obtain ⟨before, isBefore, rfl⟩ := List.mem_map.mp member
    exact noFeed before isBefore (dropReturn_subset before inside)
  calc update (update text key value) key value = update text key value
      ↔ (update (update text key value) key value).toList = (update text key value).toList :=
        String.toList_inj.symm
    _ ↔ ((setItems key value (items text)).flatMap Item.lines).map dropReturn =
          (setItems key value (items text)).flatMap Item.lines := by
        rw [toList_update_update validKey, update_toList]
        exact ⟨terminated_injective dropped noFeed, congrArg terminated⟩
    _ ↔ ∀ line ∈ (setItems key value (items text)).flatMap Item.lines,
          line.getLast? ≠ some '\r' := by
        conv => lhs; rhs; rw [← List.map_id ((setItems key value (items text)).flatMap Item.lines)]
        rw [List.map_inj_left]
        exact forall₂_congr fun line _ => dropReturn_eq_self_iff
    _ ↔ ∀ line ∈ keptLines key text, line.getLast? ≠ some '\r' := by
        simp only [mem_lines_setItems_iff]
        constructor
        · exact fun plain line kept => plain line (.inr kept)
        · rintro plain line (isNew | kept)
          · exact (isWhole_printedLines validKey value line isNew).2
          · exact plain line kept

end Again

/-! ## Files -/

/-- Setting a key once more in a file succeeds unless the system refuses it.  The file then holds
what it held before, and the store is what it was, exactly if none of the kept lines ends in a
carriage return still. -/
theorem setKey_again_iff
    {path : Path}
    {key value text : String}
    {world after : World}
    (held : world.store.readText world.here path = .ok text)
    (validKey : isRequestKey key = true)
    (succeeds : setKey path key value world = (.ok (), after))
    (grants : Action.Grants after 6) :
    after.store.read after.here path = .ok (Utf8.encode (update text key value)) ∧
      ∃ again, setKey path key value after = (.ok (), again) ∧
        again.store.read again.here path =
          .ok (Utf8.encode (update (update text key value) key value)) ∧
        (again.store.read again.here path = after.store.read after.here path ↔
          ∀ line ∈ keptLines key text, line.getLast? ≠ some '\r') ∧
        (again.store = after.store ↔
          ∀ line ∈ keptLines key text, line.getLast? ≠ some '\r') := by
  have written := (setKey_eq_writeAtomicWithin (.inl held) key value).symm.trans succeeds
  obtain ⟨-, place, rewritable, isFile⟩ := rewritable_of_writeAtomicWithin held written
  have reads := rewritable.read isFile
  obtain ⟨again, rewritten, sameHere, made⟩ := rewritable.exists_writeAtomicWithin grants
    (Utf8.encode (update (update text key value) key value)) fileMode
  have setsAgain : setKey path key value after = (.ok (), again) :=
    (setKey_eq_writeAtomicWithin (.inl (rewritable.readText isFile)) key value).trans rewritten
  have rereads : again.store.read again.here path =
      .ok (Utf8.encode (update (update text key value) key value)) := by
    rw [sameHere, made]
    exact (rewritable.insert fileMode _).read (Store.look_insert_self _ rewritable.named _)
  have settles := update_update_eq_iff validKey value text
  have sameBytes : again.store.read again.here path = after.store.read after.here path ↔
      ∀ line ∈ keptLines key text, line.getLast? ≠ some '\r' := by
    rw [rereads, reads, Except.ok.injEq, ← settles]
    exact ⟨fun same => Utf8.encode_injective same, congrArg Utf8.encode⟩
  refine ⟨reads, again, setsAgain, rereads, sameBytes, fun same => sameBytes.mp ?_, fun plain => ?_⟩
  · rw [same, sameHere]
  · rw [made, settles.mpr plain]
    exact Store.insert_eq_self rewritable.named isFile

/-! ## Files with carriage returns -/

namespace Returns

/-- The path `f`. -/
def path : Path := [102]

def worldOf (text : String) : World :=
  { (default : World) with
    store := Store.empty.insert [[102]] (.file fileMode (Utf8.encode text)) }

/-- Lines that end in all ways, a key that is set in an open block and again at the end. -/
def mixed : String := "# a\r\nK='x\ny\r\nJ='p\r\rq'\nK=2"

end Returns

open Returns in
/-- Where the kept lines end in at most one carriage return, a value of two lines can be set
twice. -/
theorem setKey_again_mixed :
    ∃ after again, setKey path "K" "one\ntwo" (worldOf mixed) = (.ok (), after) ∧
      setKey path "K" "one\ntwo" after = (.ok (), again) ∧ again.store = after.store := by
  have held : (worldOf mixed).store.readText (worldOf mixed).here path = .ok mixed := by
    decide +kernel
  have succeeds : setKey path "K" "one\ntwo" (worldOf mixed) =
      (.ok (), (setKey path "K" "one\ntwo" (worldOf mixed)).2) :=
    Prod.ext (by decide +kernel) rfl
  have grants : Action.Grants (setKey path "K" "one\ntwo" (worldOf mixed)).2 6 := by
    unfold Action.Grants
    decide +kernel
  have plain : ∀ line ∈ keptLines "K" mixed, line.getLast? ≠ some '\r' := by decide +kernel
  obtain ⟨-, again, setsAgain, -, -, same⟩ :=
    setKey_again_iff held (by decide) succeeds grants
  exact ⟨_, again, succeeds, setsAgain, same.mpr plain⟩

open Returns in
/-- A line that ends in two carriage returns loses one each time that another key is set. -/
theorem setKey_again_drops_return :
    ∃ after again, (worldOf "# a\r\r\n").store.readText [] path = .ok "# a\r\r\n" ∧
      isRequestKey "K" = true ∧
      setKey path "K" "v" (worldOf "# a\r\r\n") = (.ok (), after) ∧
      setKey path "K" "v" after = (.ok (), again) ∧
      after.store.readText [] path = .ok "# a\r\nK=v\n" ∧
      again.store.readText [] path = .ok "# a\nK=v\n" := by
  have first : setKey path "K" "v" (worldOf "# a\r\r\n") =
      (.ok (), (setKey path "K" "v" (worldOf "# a\r\r\n")).2) :=
    Prod.ext (by decide +kernel) rfl
  have second : setKey path "K" "v" (setKey path "K" "v" (worldOf "# a\r\r\n")).2 =
      (.ok (), (setKey path "K" "v" (setKey path "K" "v" (worldOf "# a\r\r\n")).2).2) :=
    Prod.ext (by decide +kernel) rfl
  refine ⟨_, _, ?_, by decide, first, second, ?_, ?_⟩
  · decide +kernel
  · decide +kernel
  · decide +kernel

end SealedEnv.EnvFile
