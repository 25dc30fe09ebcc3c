import SealedEnv.Envelope
import SealedEnv.Proofs.Base64Canonical
import SealedEnv.Proofs.Detection
import SealedEnv.Proofs.EnvFile.RoundTrip

/-!
Contract: a sealed value is taken apart into the segments it was built of, and no other text stands
for the same bytes.

Owns:
- `isSealed` and `parse` of what `build` gives, bare or in quotes;
- the ends of a sealed value, which no reader of env files trims;
- which of the texts that the default pattern detects pass for sealed;
- `Denotes`, and the one bare text that denotes two byte strings.

Does not own: what the segments hold.
-/

namespace SealedEnv.Envelope

theorem build_toList (capsule blob : Bytes) :
    (build capsule blob).toList =
      mark.toList ++ ((Base64.encode capsule).toList ++ separator ::
        (Base64.encode blob).toList) := by
  simp [build]

theorem unquote_build (capsule blob : Bytes) :
    unquote (build capsule blob).toList = (build capsule blob).toList := by
  rw [build_toList]
  rfl

theorem payload?_mark_append (payload : List Char) :
    payload? (mark.toList ++ payload) = some payload := by
  have marked : mark.toList.isPrefixOf (mark.toList ++ payload) = true :=
    List.isPrefixOf_iff_prefix.mpr (List.prefix_append _ _)
  unfold payload?
  rw [if_pos marked, List.drop_left]

theorem isSealed_of_unquote
    {text : String}
    {payload : List Char}
    (isText : unquote text.toList = mark.toList ++ payload) :
    isSealed text = true := by
  unfold isSealed
  rw [isText, payload?_mark_append]
  rfl

/-- The first separator is the one that divides the segments. -/
theorem parse_of_unquote
    {text : String}
    {capsule blob : List Char}
    (isText : unquote text.toList = mark.toList ++ (capsule ++ separator :: blob))
    (noSeparator : separator ∉ capsule) :
    parse text = .ok ⟨String.ofList capsule, String.ofList blob⟩ := by
  have inCapsule : ∀ c ∈ capsule, decide (c ≠ separator) = true := by
    intro c member
    exact decide_eq_true fun isSeparator => noSeparator (isSeparator ▸ member)
  unfold parse
  rw [isText, payload?_mark_append]
  simp only [List.dropWhile_append_of_pos inCapsule, List.takeWhile_append_of_pos inCapsule]
  simp

/-- What is taken apart passes for sealed. -/
theorem isSealed_of_parse
    {text : String}
    {segments : Segments}
    (parsed : parse text = .ok segments) :
    isSealed text = true := by
  unfold parse at parsed
  unfold isSealed
  cases found : payload? (unquote text.toList) with
  | none =>
      rw [found] at parsed
      contradiction
  | some payload => rfl

/-- A text that passes for sealed is not taken apart only for want of a separator. -/
theorem eq_missingSeparator_of_parse
    {text : String}
    {refusal : ParseError}
    (passes : isSealed text = true)
    (unparsed : parse text = .error refusal) :
    refusal = .missingSeparator := by
  unfold isSealed at passes
  obtain ⟨payload, found⟩ := Option.isSome_iff_exists.mp passes
  unfold parse at unparsed
  rw [found] at unparsed
  simp only [] at unparsed
  split at unparsed
  · cases unparsed
    rfl
  · contradiction

theorem isSealed_build (capsule blob : Bytes) : isSealed (build capsule blob) = true :=
  isSealed_of_unquote ((unquote_build capsule blob).trans (build_toList capsule blob))

theorem parse_build (capsule blob : Bytes) :
    parse (build capsule blob) = .ok ⟨Base64.encode capsule, Base64.encode blob⟩ := by
  have isText := (unquote_build capsule blob).trans (build_toList capsule blob)
  have parsed := parse_of_unquote isText fun inside =>
    (Base64.not_blank_of_mem_encode inside).2.1 rfl
  rwa [String.ofList_toList, String.ofList_toList] at parsed

/-! ## One pair of quotes -/

def quoted (text : String) : String := "'" ++ text ++ "'"

theorem unquote_quoted (text : String) : unquote (quoted text).toList = text.toList := by
  have isQuoted : (quoted text).toList = '\'' :: (text.toList ++ ['\'']) := by
    simp [quoted]
  rw [isQuoted, unquote, if_pos List.getLast?_concat, List.dropLast_concat]

/-- The test for a sealed value and its reading look at the text without its quotes. -/
theorem isSealed_congr
    {left right : String}
    (same : unquote left.toList = unquote right.toList) :
    isSealed left = isSealed right := by
  unfold isSealed
  rw [same]

theorem parse_congr
    {left right : String}
    (same : unquote left.toList = unquote right.toList) :
    parse left = parse right := by
  unfold parse
  rw [same]

/-- The default pattern occurs in a built value, and in one between quotes. -/
theorem detection_occursIn_build
    {capsule blob : Bytes}
    {text : String}
    (isBuilt : text = build capsule blob ∨ text = quoted (build capsule blob)) :
    detection.occursIn text = true := by
  rw [detection_occursIn_iff]
  have letters : ∀ bytes, ∀ c ∈ (Base64.encode bytes).toList, Base64.isLetter c = true := by
    intro bytes c member
    exact Base64.isLetter_of_mem_encode member
  rcases isBuilt with rfl | rfl
  · refine ⟨[], _, _, [], ?_, .inl rfl, .inl rfl, letters capsule, letters blob⟩
    rw [build_toList, List.nil_append, List.append_nil]
  · refine ⟨['\''], _, _, ['\''], ?_, .inr rfl, .inr rfl, letters capsule, letters blob⟩
    rw [← build_toList]
    simp [quoted]

/-- A detected text has no blank in it. -/
theorem noBlank_of_detected
    {text : String}
    (detected : detection.occursIn text = true) :
    (text.toList.all fun c => !Text.isBlank c) = true := by
  obtain ⟨front, capsule, blob, back, isText, frontQuote, backQuote, capsuleLetters,
    blobLetters⟩ := detection_occursIn_iff.mp detected
  have inQuotes : ∀ quotes, quotes = [] ∨ quotes = ['\''] →
      (quotes.all fun c => !Text.isBlank c) = true := by
    intro quotes isQuotes
    cases isQuotes with
    | inl isNone => rw [isNone]; rfl
    | inr isQuote => rw [isQuote]; rfl
  have inLetters : ∀ letters : List Char, (∀ c ∈ letters, Base64.isLetter c = true) →
      (letters.all fun c => !Text.isBlank c) = true := by
    intro letters areLetters
    apply List.all_eq_true.mpr
    intro c member
    rw [Base64.isBlank_of_isLetter (areLetters c member)]
    rfl
  rw [isText]
  simp only [List.all_append, List.all_cons, inQuotes front frontQuote, inQuotes back backQuote,
    inLetters capsule capsuleLetters, inLetters blob blobLetters]
  decide

/-- A detected text reads back from an env file as it was. -/
theorem hasPlainEnds_of_detected
    {text : String}
    (detected : detection.occursIn text = true) :
    EnvFile.hasPlainEnds text = true :=
  EnvFile.hasPlainEnds_of_noBlank (noBlank_of_detected detected)

/-- A built value reads back from an env file as it was. -/
theorem hasPlainEnds_build (capsule blob : Bytes) :
    EnvFile.hasPlainEnds (build capsule blob) = true :=
  hasPlainEnds_of_detected (detection_occursIn_build (.inl rfl))

/-! ## The quotes of a detected text -/

/-- The bare text of two segments. -/
def spelled (capsule blob : List Char) : List Char :=
  mark.toList ++ (capsule ++ separator :: blob)

/-- Holds of a text that begins with a quote exactly if it ends with one. -/
def PairsQuotes (text : String) : Prop :=
  text.toList.head? = some '\'' ↔ text.toList.getLast? = some '\''

/-- Holds of a text that passes for sealed and is taken apart into letters of base64 texts. -/
def IsSealedLetters (text : String) : Prop :=
  isSealed text = true ∧ ∃ segments, parse text = .ok segments ∧
    (∀ c ∈ segments.capsule.toList, Base64.isLetter c = true) ∧
      ∀ c ∈ segments.blob.toList, Base64.isLetter c = true

section Quotes

variable {capsule blob : List Char}

theorem getLast?_spelled_ne
    (blobLetters : ∀ c ∈ blob, Base64.isLetter c = true) :
    (spelled capsule blob).getLast? ≠ some '\'' := by
  have notLetter : Base64.isLetter '\'' = false := by decide
  rw [spelled, ← List.append_assoc, List.getLast?_append_cons]
  intro isQuote
  rcases List.mem_cons.mp (List.mem_of_getLast? isQuote) with isSeparator | inBlob
  · contradiction
  · rw [blobLetters _ inBlob] at notLetter
    contradiction

/-- Letters in front of a separator are the first segment, for the separator is no letter. -/
theorem parse_of_unquote_spelled
    {text : String}
    (isText : unquote text.toList = spelled capsule blob)
    (capsuleLetters : ∀ c ∈ capsule, Base64.isLetter c = true) :
    parse text = .ok ⟨String.ofList capsule, String.ofList blob⟩ := by
  apply parse_of_unquote isText
  intro inside
  have notLetter : Base64.isLetter separator = false := by decide
  rw [capsuleLetters separator inside] at notLetter
  contradiction

/-- A detected text is bare between paired quotes, or a quote at its front alone stays in front of
the mark, or one at its end alone stays behind the second segment. -/
theorem quotes_of_detected
    {text : String}
    (detected : detection.occursIn text = true) :
    ∃ capsule blob, (∀ c ∈ capsule, Base64.isLetter c = true) ∧
      (∀ c ∈ blob, Base64.isLetter c = true) ∧
        ((PairsQuotes text ∧ unquote text.toList = spelled capsule blob) ∨
          (text.toList.head? = some '\'' ∧ text.toList.getLast? ≠ some '\'' ∧
            unquote text.toList = '\'' :: spelled capsule blob) ∨
          (text.toList.head? ≠ some '\'' ∧ text.toList.getLast? = some '\'' ∧
            unquote text.toList = spelled capsule (blob ++ ['\'']))) := by
  obtain ⟨front, capsule, blob, back, isText, frontQuote, backQuote, capsuleLetters,
    blobLetters⟩ := detection_occursIn_iff.mp detected
  change text.toList = front ++ (spelled capsule blob ++ back) at isText
  have noQuote : (spelled capsule blob).getLast? ≠ some '\'' := getLast?_spelled_ne blobLetters
  have bareFront : ∀ back, (spelled capsule blob ++ back).head? = some 'O' := fun _ => rfl
  refine ⟨capsule, blob, capsuleLetters, blobLetters, ?_⟩
  unfold PairsQuotes
  rw [isText]
  rcases frontQuote with rfl | rfl
  · rw [List.nil_append, bareFront]
    rcases backQuote with rfl | rfl
    · rw [List.append_nil]
      exact .inl ⟨iff_of_false (by decide) noQuote, rfl⟩
    · rw [List.getLast?_concat]
      refine .inr (.inr ⟨by decide, rfl, ?_⟩)
      simp only [spelled, List.append_assoc, List.cons_append]
      rfl
  · have isQuoted : ∀ back, ['\''] ++ (spelled capsule blob ++ back) =
        '\'' :: (spelled capsule blob ++ back) := fun _ => rfl
    rw [isQuoted, List.head?_cons, unquote]
    rcases backQuote with rfl | rfl
    · rw [List.append_nil, if_neg noQuote, List.getLast?_cons_of_ne_nil (by simp [spelled])]
      exact .inr (.inl ⟨rfl, noQuote, rfl⟩)
    · rw [List.getLast?_concat, if_pos rfl, List.dropLast_concat]
      refine .inl ⟨iff_of_true rfl ?_, rfl⟩
      rw [← List.cons_append, List.getLast?_concat]

end Quotes

/-- A text that the default pattern detects passes for sealed, with letters in both segments,
exactly if its quotes are paired.  A quote at the front alone hides the mark, and one at the end
alone is read as part of the second segment, which is then no base64 text. -/
theorem isSealedLetters_iff_pairsQuotes
    {text : String}
    (detected : (Pattern.ofString? detectionPattern).map (·.occursIn text) = some true) :
    (IsSealedLetters text ↔ PairsQuotes text) ∧
      (text.toList.head? = some '\'' → text.toList.getLast? ≠ some '\'' →
        isSealed text = false ∧ parse text = .error .missingMark) ∧
      (text.toList.head? ≠ some '\'' → text.toList.getLast? = some '\'' →
        isSealed text = true ∧ ∃ segments, parse text = .ok segments ∧
          segments.blob.toList.getLast? = some '\'' ∧
            ∀ bytes, Base64.decode segments.blob ≠ .ok bytes) := by
  rw [ofString?_detectionPattern, Option.map_some, Option.some.injEq] at detected
  have notLetter : Base64.isLetter '\'' = false := by decide
  obtain ⟨capsule, blob, capsuleLetters, blobLetters, ⟨paired, isText⟩ | ⟨front, noBack, isText⟩ |
    ⟨noFront, back, isText⟩⟩ := quotes_of_detected detected
  · have parsed := parse_of_unquote_spelled isText capsuleLetters
    have isSealedLetters : IsSealedLetters text := by
      refine ⟨isSealed_of_unquote isText, _, parsed, ?_, ?_⟩
      · rwa [String.toList_ofList]
      · rwa [String.toList_ofList]
    refine ⟨iff_of_true isSealedLetters paired, ?_, ?_⟩
    · intro front noBack
      exact absurd (paired.mp front) noBack
    · intro noFront back
      exact absurd (paired.mpr back) noFront
  · have hidden : payload? (unquote text.toList) = none := by
      rw [isText]
      rfl
    have notSealed : isSealed text = false := by
      unfold isSealed
      rw [hidden]
      rfl
    have notParsed : parse text = .error .missingMark := by
      unfold parse
      rw [hidden]
    refine ⟨iff_of_false ?_ fun paired => noBack (paired.mp front), fun _ _ =>
      ⟨notSealed, notParsed⟩, fun noFront _ => absurd front noFront⟩
    rintro ⟨passes, -⟩
    rw [notSealed] at passes
    contradiction
  · have parsed := parse_of_unquote_spelled isText capsuleLetters
    have ends : '\'' ∈ (String.ofList (blob ++ ['\''])).toList := by simp
    refine ⟨iff_of_false ?_ fun paired => noFront (paired.mpr back),
      fun front _ => absurd front noFront, fun _ _ =>
        ⟨isSealed_of_unquote isText, _, parsed, by simp, ?_⟩⟩
    · rintro ⟨-, segments, parsedAgain, -, letters⟩
      cases parsed.symm.trans parsedAgain
      rw [letters _ ends] at notLetter
      contradiction
    · intro bytes decoded
      have isEncoded : String.ofList (blob ++ ['\'']) = Base64.encode bytes :=
        Base64.decode_eq_ok_iff.mp decoded
      rw [isEncoded] at ends
      rw [Base64.isLetter_of_mem_encode ends] at notLetter
      contradiction

/-- A pair of quotes is taken off, whatever letters stand between. -/
theorem isSealedLetters_pairedQuotes :
    (Pattern.ofString? detectionPattern).map (·.occursIn "'OJSTER-1:a=:+'") = some true ∧
      PairsQuotes "'OJSTER-1:a=:+'" ∧ IsSealedLetters "'OJSTER-1:a=:+'" := by
  have detected : (Pattern.ofString? detectionPattern).map (·.occursIn "'OJSTER-1:a=:+'") =
      some true := by decide
  have paired : PairsQuotes "'OJSTER-1:a=:+'" := ⟨fun _ => rfl, fun _ => rfl⟩
  exact ⟨detected, paired, (isSealedLetters_iff_pairsQuotes detected).1.mpr paired⟩

/-- A quote at the front alone is detected, and the text does not pass for sealed. -/
theorem detected_frontQuote_not_isSealed :
    (Pattern.ofString? detectionPattern).map (·.occursIn "'OJSTER-1:a:b") = some true ∧
      isSealed "'OJSTER-1:a:b" = false ∧ parse "'OJSTER-1:a:b" = .error .missingMark := by
  decide

/-! ## The text of two byte strings -/

/-- What is taken apart into segments consists of the mark and these, with the separator between
them. -/
theorem unquote_of_parse
    {text : String}
    {segments : Segments}
    (parsed : parse text = .ok segments) :
    unquote text.toList =
      mark.toList ++ (segments.capsule.toList ++ separator :: segments.blob.toList) := by
  unfold parse payload? at parsed
  split at parsed
  case h_1 => contradiction
  case h_2 payload isPayload =>
    split at isPayload
    case isFalse => contradiction
    case isTrue isMarked =>
      obtain ⟨after, isText⟩ := List.isPrefixOf_iff_prefix.mp isMarked
      rw [← isText, List.drop_left, Option.some.injEq] at isPayload
      subst isPayload
      split at parsed
      case h_1 => contradiction
      case h_2 c blob divided =>
        have isSeparator : c = separator := by
          have stopped := List.head?_dropWhile_not (· ≠ separator) after
          rw [divided] at stopped
          simpa using stopped
        have whole := List.takeWhile_append_dropWhile (p := (· ≠ separator)) (l := after)
        rw [divided, isSeparator] at whole
        cases parsed
        rw [← isText]
        simp only [String.toList_ofList]
        rw [whole]

/-- Holds of a text that is taken apart into segments which stand for the two byte strings. -/
def Denotes (text : String) (capsule blob : Bytes) : Prop :=
  ∃ segments, parse text = .ok segments ∧
    Base64.decode segments.capsule = .ok capsule ∧ Base64.decode segments.blob = .ok blob

theorem denotes_iff
    {text : String}
    {capsule blob : Bytes} :
    Denotes text capsule blob ↔ unquote text.toList = (build capsule blob).toList := by
  constructor
  · rintro ⟨segments, parsed, capsuleRead, blobRead⟩
    rw [unquote_of_parse parsed, Base64.decode_eq_ok_iff.mp capsuleRead,
      Base64.decode_eq_ok_iff.mp blobRead, build_toList]
  · intro isBuilt
    have parsed : parse text = parse (build capsule blob) := by
      apply parse_congr
      rw [isBuilt, unquote_build]
    rw [parse_build] at parsed
    exact ⟨_, parsed, Base64.decode_encode capsule, Base64.decode_encode blob⟩

/-- Two byte strings are denoted by what is built of them, bare or in one pair of quotes, which is
detected and passes for sealed; and whatever denotes them is that text once it is unquoted. -/
theorem build_detected_and_denotes_unique (capsule blob : Bytes) :
    (∀ text, text = build capsule blob ∨ text = quoted (build capsule blob) →
      (Pattern.ofString? detectionPattern).map (·.occursIn text) = some true ∧
        isSealed text = true ∧ Denotes text capsule blob) ∧
    (∀ text, Denotes text capsule blob → unquote text.toList = (build capsule blob).toList) ∧
    ∀ left right, Denotes left capsule blob → Denotes right capsule blob →
      unquote left.toList = unquote right.toList := by
  refine ⟨?_, fun text denotes => denotes_iff.mp denotes, ?_⟩
  · intro text isBuilt
    have bare : unquote text.toList = (build capsule blob).toList := by
      rcases isBuilt with rfl | rfl
      · exact unquote_build capsule blob
      · exact unquote_quoted (build capsule blob)
    have passes : isSealed text = isSealed (build capsule blob) := by
      apply isSealed_congr
      rw [bare, unquote_build]
    rw [ofString?_detectionPattern, Option.map_some, detection_occursIn_build isBuilt]
    exact ⟨rfl, passes.trans (isSealed_build capsule blob), denotes_iff.mpr bare⟩
  · intro left right leftDenotes rightDenotes
    rw [denotes_iff.mp leftDenotes, denotes_iff.mp rightDenotes]

/-- The pads belong to the text, and the quotes do not. -/
theorem denotes_quoted_unique :
    Denotes "'OJSTER-1:AQ==:AgM='" [1] [2, 3] ∧
      unquote "'OJSTER-1:AQ==:AgM='".toList = "OJSTER-1:AQ==:AgM=".toList := by
  have built : "'OJSTER-1:AQ==:AgM='" = quoted (build [1] [2, 3]) := by decide
  obtain ⟨forward, backward, -⟩ := build_detected_and_denotes_unique [1] [2, 3]
  have denotes := (forward _ (.inr built)).2.2
  refine ⟨denotes, ?_⟩
  rw [backward _ denotes]
  decide

end SealedEnv.Envelope
