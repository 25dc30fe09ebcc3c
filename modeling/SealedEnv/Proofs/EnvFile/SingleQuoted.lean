import SealedEnv.EnvFile.Entry

/-!
Contract: the two passes over a text in single quotes read it as one scan does.

Owns:
- the laws of `replacePair`, one for each way in which a text can begin;
- `scanEscapes`, one scan from left to right, and the agreement of the two passes with it;
- what the two passes leave of a run of backslashes.

Does not own: which values a single quote closes, or values in double quotes.

## Why the first pass does no harm

The first pass may pair a quote with a backslash that a scan pairs with the backslash before it:
of `\\'` it makes `\'`.  But it puts a quote where the quote was, and the backslash that it leaves
there stands before that quote, so the second pass keeps it.  The scan makes `\'` of it as well.
-/

namespace SealedEnv.EnvFile

open Text

/-! ## Replacing a pair of characters -/

section ReplacePair

variable (first second result : Char)

/-- What stands before a text plays no part in what is replaced in it. -/
theorem replacePairAfter_eq :
    ∀ done text : List Char,
      replacePairAfter first second result done text =
        done.reverse ++ replacePair first second result text
  | done, [] => by simp [replacePair, replacePairAfter]
  | done, [c] => by simp [replacePair, replacePairAfter]
  | done, c :: d :: rest => by
      unfold replacePair
      simp only [replacePairAfter]
      by_cases paired : c = first ∧ d = second
      · rw [if_pos paired, if_pos paired, replacePairAfter_eq (result :: done) rest,
          replacePairAfter_eq [result] rest]
        simp
      · rw [if_neg paired, if_neg paired, replacePairAfter_eq (c :: done) (d :: rest),
          replacePairAfter_eq [c] (d :: rest)]
        simp

theorem replacePair_pair (rest : List Char) :
    replacePair first second result (first :: second :: rest) =
      result :: replacePair first second result rest := by
  unfold replacePair
  rw [replacePairAfter, if_pos ⟨rfl, rfl⟩, replacePairAfter_eq]
  rfl

/-- A character that does not begin a pair is kept. -/
theorem replacePair_cons
    {c : Char}
    {rest : List Char}
    (unpaired : c = first → rest.head? ≠ some second) :
    replacePair first second result (c :: rest) =
      c :: replacePair first second result rest := by
  cases rest with
  | nil => rfl
  | cons d rest =>
      have notPair : ¬(c = first ∧ d = second) := by
        rintro ⟨isFirst, isSecond⟩
        exact unpaired isFirst (congrArg some isSecond)
      unfold replacePair
      rw [replacePairAfter, if_neg notPair, replacePairAfter_eq]
      rfl

/-- A text that cannot begin with a pair begins as it did. -/
theorem head?_replacePair
    {text : List Char}
    (begins : text.head? ≠ some first) :
    (replacePair first second result text).head? = text.head? := by
  cases text with
  | nil => rfl
  | cons c rest =>
      have notFirst : c ≠ first := fun isFirst => begins (congrArg some isFirst)
      rw [replacePair_cons first second result fun isFirst => absurd isFirst notFirst]
      rfl

end ReplacePair

/-! ## One scan -/

/-- One scan from left to right.  A backslash before a quote or before a backslash is left out and
what it escapes is kept; every other character is kept, also a backslash before anything else or
at the end. -/
def scanEscapes : List Char → List Char
  | [] => []
  | '\\' :: '\'' :: rest => '\'' :: scanEscapes rest
  | '\\' :: '\\' :: rest => '\\' :: scanEscapes rest
  | c :: rest => c :: scanEscapes rest

/-! ## The two passes -/

/-- Holds of a character that is not the backslash of an escape, if `rest` follows it. -/
def IsPlain (c : Char) (rest : List Char) : Prop :=
  c = '\\' → rest.head? ≠ some '\'' ∧ rest.head? ≠ some '\\'

theorem unescapeSingle_quote (rest : List Char) :
    unescapeSingle ('\\' :: '\'' :: rest) = '\'' :: unescapeSingle rest := by
  unfold unescapeSingle
  rw [replacePair_pair, replacePair_cons]
  intro isBackslash
  exact absurd isBackslash (by decide)

/-- Two backslashes stand for one, also where the first pass takes the second of them for the
escape of a quote. -/
theorem unescapeSingle_backslash (rest : List Char) :
    unescapeSingle ('\\' :: '\\' :: rest) = '\\' :: unescapeSingle rest := by
  unfold unescapeSingle
  have firstKept : replacePair '\\' '\'' '\'' ('\\' :: '\\' :: rest) =
      '\\' :: replacePair '\\' '\'' '\'' ('\\' :: rest) := by
    apply replacePair_cons
    simp
  rw [firstKept]
  by_cases quoteNext : rest.head? = some '\''
  · obtain ⟨more, rfl⟩ := List.head?_eq_some_iff.mp quoteNext
    have quoteKept : replacePair '\\' '\'' '\'' ('\'' :: more) =
        '\'' :: replacePair '\\' '\'' '\'' more := by
      apply replacePair_cons
      simp
    rw [replacePair_pair, quoteKept]
    -- The quote has stayed, so the second pass finds no pair at the backslash before it.
    apply replacePair_cons
    simp
  · rw [replacePair_cons '\\' '\'' '\'' fun _ => quoteNext, replacePair_pair]

theorem unescapeSingle_cons
    {c : Char}
    {rest : List Char}
    (plain : IsPlain c rest) :
    unescapeSingle (c :: rest) = c :: unescapeSingle rest := by
  unfold unescapeSingle
  rw [replacePair_cons '\\' '\'' '\'' fun isBackslash => (plain isBackslash).1]
  apply replacePair_cons
  intro isBackslash
  rw [head?_replacePair '\\' '\'' '\'' (plain isBackslash).2]
  exact (plain isBackslash).2

theorem unescapeSingle_eq_scanEscapes (text : List Char) :
    unescapeSingle text = scanEscapes text := by
  fun_induction scanEscapes text with
  | case1 => rfl
  | case2 rest inductionHypothesis => rw [unescapeSingle_quote, inductionHypothesis]
  | case3 rest inductionHypothesis => rw [unescapeSingle_backslash, inductionHypothesis]
  | case4 c rest notQuote notBackslash inductionHypothesis =>
      have plain : IsPlain c rest := by
        intro isBackslash
        constructor
        · intro quoteNext
          obtain ⟨more, isQuote⟩ := List.head?_eq_some_iff.mp quoteNext
          exact notQuote more isBackslash isQuote
        · intro backslashNext
          obtain ⟨more, isPair⟩ := List.head?_eq_some_iff.mp backslashNext
          exact notBackslash more isBackslash isPair
      rw [unescapeSingle_cons plain, inductionHypothesis]

/-! ## Runs of backslashes -/

/-- Each two backslashes of a run stand for one, whatever follows them. -/
theorem unescapeSingle_evenRun (half : Nat) (rest : List Char) :
    unescapeSingle (List.replicate (2 * half) '\\' ++ rest) =
      List.replicate half '\\' ++ unescapeSingle rest := by
  induction half with
  | zero => rfl
  | succ half inductionHypothesis =>
      rw [Nat.mul_succ, List.replicate_succ, List.replicate_succ, List.replicate_succ,
        List.cons_append, List.cons_append, unescapeSingle_backslash, inductionHypothesis,
        List.cons_append]

theorem unescapeSingle_oddRun (half : Nat) (rest : List Char) :
    unescapeSingle (List.replicate (2 * half + 1) '\\' ++ rest) =
      List.replicate half '\\' ++ unescapeSingle ('\\' :: rest) := by
  rw [List.replicate_succ', List.append_assoc, unescapeSingle_evenRun, List.singleton_append]

/-- What is left of a whole run of backslashes: half of it, rounded down before a quote and up
before anything else and at the end.  What follows the run is read as it is without it. -/
theorem unescapeSingle_run
    (n : Nat)
    {rest : List Char}
    (ends : rest.head? ≠ some '\\') :
    unescapeSingle (List.replicate n '\\' ++ rest) =
      List.replicate (if rest.head? = some '\'' then n / 2 else (n + 1) / 2) '\\' ++
        unescapeSingle rest := by
  obtain ⟨half, even | odd⟩ : ∃ half, n = 2 * half ∨ n = 2 * half + 1 := ⟨n / 2, by omega⟩
  · have left : (if rest.head? = some '\'' then n / 2 else (n + 1) / 2) = half := by
      split <;> omega
    rw [left, even, unescapeSingle_evenRun]
  · rw [odd, unescapeSingle_oddRun]
    by_cases quoteNext : rest.head? = some '\''
    · have left : (2 * half + 1) / 2 = half := by omega
      rw [if_pos quoteNext, left]
      obtain ⟨more, rfl⟩ := List.head?_eq_some_iff.mp quoteNext
      have quoteKept : unescapeSingle ('\'' :: more) = '\'' :: unescapeSingle more := by
        apply unescapeSingle_cons
        simp [IsPlain]
      rw [unescapeSingle_quote, quoteKept]
    · have left : (2 * half + 1 + 1) / 2 = half + 1 := by omega
      have plain : IsPlain '\\' rest := fun _ => ⟨quoteNext, ends⟩
      rw [if_neg quoteNext, left, unescapeSingle_cons plain, List.replicate_succ',
        List.append_assoc, List.singleton_append]

/-! ## Values in single quotes -/

theorem closedBody?_concat (inner : List Char) : closedBody? (inner ++ ['\'']) = some inner := by
  unfold closedBody?
  rw [if_pos (by simp), List.dropLast_concat]

/-- A value that a single quote opens and another one closes is what the two passes make of the
text between them. -/
theorem readValue_of_quoted
    {raw inner : List Char}
    (quoted : trim raw = '\'' :: inner ++ ['\'']) :
    readValue raw = unescapeSingle inner := by
  unfold readValue
  rw [quoted]
  -- A quote alone is a form of its own, so the match asks whether anything stands inside.
  cases inner with
  | nil => rfl
  | cons c inner =>
      have closed : closedBody? (c :: (inner ++ ['\''])) = some (c :: inner) :=
        closedBody?_concat (c :: inner)
      simp only [List.cons_append, closed]

/-- To replace each escaped quote by a quote, and then each two backslashes by one, is one scan
from left to right that undoes both escapes as it meets them.  So a value in single quotes is the
scan of the text between them.  Of a run of backslashes before a text both leave half, rounded
down before a quote and up before anything else and at the end. -/
theorem twoPasses_eq_scanEscapes (text : List Char) :
    replacePair '\\' '\\' '\\' (replacePair '\\' '\'' '\'' text) = scanEscapes text ∧
      (∀ raw, trim raw = '\'' :: text ++ ['\''] → readValue raw = scanEscapes text) ∧
      ∀ n, text.head? ≠ some '\\' →
        scanEscapes (List.replicate n '\\' ++ text) =
          List.replicate (if text.head? = some '\'' then n / 2 else (n + 1) / 2) '\\' ++
            scanEscapes text := by
  have scanned : unescapeSingle text = scanEscapes text := unescapeSingle_eq_scanEscapes text
  refine ⟨scanned, ?_, ?_⟩
  · intro raw quoted
    rw [readValue_of_quoted quoted, scanned]
  · intro n ends
    rw [← unescapeSingle_eq_scanEscapes, unescapeSingle_run n ends, scanned]

/-- A value with runs of two and of three backslashes before a quote, one before another letter
and one at the end, and what is left of a run of three before any quote. -/
theorem twoPasses_eq_scanEscapes_runs :
    trim "\t'\\\\'\\\\\\'\\n\\'\u2003".toList = '\'' :: "\\\\'\\\\\\'\\n\\".toList ++ ['\''] ∧
      readValue "\t'\\\\'\\\\\\'\\n\\'\u2003".toList = "\\'\\'\\n\\".toList ∧
      ['\'', 'n'].head? ≠ some '\\' ∧
      scanEscapes ('\\' :: '\\' :: '\\' :: ['\'', 'n']) = '\\' :: scanEscapes ['\'', 'n'] := by
  have quoted : trim "\t'\\\\'\\\\\\'\\n\\'\u2003".toList =
      '\'' :: "\\\\'\\\\\\'\\n\\".toList ++ ['\''] := by decide
  have scan : scanEscapes "\\\\'\\\\\\'\\n\\".toList = "\\'\\'\\n\\".toList := by decide
  have ends : ['\'', 'n'].head? ≠ some '\\' := by decide
  exact ⟨quoted, ((twoPasses_eq_scanEscapes _).2.1 _ quoted).trans scan, ends,
    (twoPasses_eq_scanEscapes _).2.2 3 ends⟩

end SealedEnv.EnvFile
