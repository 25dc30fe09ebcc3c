import SealedEnv.Envelope
import SealedEnv.Pattern.Reader
import SealedEnv.Proofs.Base64
import SealedEnv.Proofs.Pattern.Shapes

/-!
Contract: the texts in which the default pattern occurs.

Owns:
- the letters of base64 texts, none of which is blank;
- `detection`, the default pattern as it is read;
- `detection_occursIn_iff`, the texts that it detects.

Does not own: which of these texts are sealed values.
-/

namespace SealedEnv

/-! ## The letters of base64 texts -/

namespace Base64

/-- Holds of the characters of the alphabet and of the pad. -/
def isLetter (c : Char) : Bool :=
  ('A' ≤ c && c ≤ 'Z') || ('a' ≤ c && c ≤ 'z') || ('0' ≤ c && c ≤ '9') ||
    c == '+' || c == '/' || c == '='

theorem isBlank_of_isLetter
    {c : Char}
    (letter : isLetter c = true) :
    Text.isBlank c = false := by
  simp only [isLetter, Bool.or_eq_true, Bool.and_eq_true, decide_eq_true_eq, beq_iff_eq,
    Char.le_def, UInt32.le_iff_toNat_le] at letter
  change (((((65 ≤ c.toNat ∧ c.toNat ≤ 90) ∨ (97 ≤ c.toNat ∧ c.toNat ≤ 122)) ∨
    (48 ≤ c.toNat ∧ c.toNat ≤ 57)) ∨ c = '+') ∨ c = '/') ∨ c = '=' at letter
  simp only [Text.isBlank, Bool.or_eq_false_iff, Bool.and_eq_false_iff, decide_eq_false_iff_not,
    beq_eq_false_iff_ne]
  rcases letter with ((ranges | rfl) | rfl) | rfl
  · omega
  · decide
  · decide
  · decide

theorem isLetter_of_mem_encode
    {bytes : Bytes}
    {c : Char}
    (member : c ∈ (encode bytes).toList) :
    isLetter c = true := by
  rw [encode, String.toList_ofList] at member
  obtain ⟨byte, inSymbols, rfl⟩ := List.mem_map.mp member
  rcases isSymbol_of_mem_encodeBytes inSymbols with rfl | ⟨value, valueSmall, rfl⟩
  · rfl
  · have all : ∀ n : Fin 64, isLetter (Char.ofNat (symbol n).toNat) = true := by decide
    exact all ⟨value, valueSmall⟩

end Base64

/-! ## The default pattern -/

namespace Envelope

open Pattern

/-- The class of the letters of base64 texts, member by member as it is written. -/
def letters : CharClass :=
  [[('A', 'Z')], [('a', 'z')], [('0', '9')], [('+', '+')], [('/', '/')], [('=', '=')]].foldl
    (fun done range => .union done (.ranges (range.map fun (low, high) => (low.toNat, high.toNat))))
    .none

def optionalQuote : Pattern := rep (one (.single '\'')) 0 (some 1)

def letterRun : Pattern := rep (one letters) 0 none

/-- The default pattern as it is read. -/
def detection : Pattern :=
  seq (anchor .textStart) (seq optionalQuote
    (seq (literal mark.toList (seq letterRun (seq (one (.single separator)) letterRun)))
      (seq optionalQuote (anchor .textEnd))))

theorem ofString?_detectionPattern : ofString? detectionPattern = some detection := by
  decide

theorem contains_letters (c : Char) : letters.contains c = Base64.isLetter c := by
  rw [Bool.eq_iff_iff]
  simp only [letters, List.foldl, List.map, CharClass.contains, CharClass.none,
    Text.CodeRanges.contains, List.any, Base64.isLetter, Bool.or_eq_true, Bool.and_eq_true,
    decide_eq_true_eq, beq_iff_eq, Bool.or_false, Char.le_def, UInt32.le_iff_toNat_le,
    ← Char.toNat_inj, Char.toNat]
  simp
  omega

theorem fits_letterRun_iff
    {before after : Option Char}
    {stretch : List Char} :
    letterRun.Fits before stretch after ↔ ∀ c ∈ stretch, Base64.isLetter c = true := by
  rw [letterRun, fits_run_iff]
  simp only [contains_letters]

/-- The default pattern occurs in the texts of the mark and two runs of letters with the separator
between them, with or without a quote at either end. -/
theorem detection_occursIn_iff {text : String} :
    detection.occursIn text = true ↔
      ∃ front capsule blob back,
        text.toList = front ++ (mark.toList ++ (capsule ++ separator :: blob) ++ back) ∧
          (front = [] ∨ front = ['\'']) ∧ (back = [] ∨ back = ['\'']) ∧
            (∀ c ∈ capsule, Base64.isLetter c = true) ∧ ∀ c ∈ blob, Base64.isLetter c = true := by
  rw [occursIn_iff (by decide), detection, fitsWithin_whole_iff]
  constructor
  · rintro ⟨-, rest, isText, front, -, rfl, frontFits, middle, -, rfl, middleFits, back, -, rfl,
      backFits, rfl, atEnd⟩
    obtain ⟨-, rfl, capsule, -, rfl, capsuleFits, -, blob, rfl, ⟨c, rfl, isSeparator⟩,
      blobFits⟩ := fits_literal_iff.mp middleFits
    obtain rfl := contains_single_iff.mp isSeparator
    obtain rfl : rest = [] := by
      cases rest with
      | nil => rfl
      | cons d more => simp [Anchor.holds] at atEnd
    rw [List.append_nil, List.append_nil] at isText
    exact ⟨front, capsule, blob, back, isText, fits_optional_iff.mp frontFits,
      fits_optional_iff.mp backFits, fits_letterRun_iff.mp capsuleFits,
      fits_letterRun_iff.mp blobFits⟩
  · rintro ⟨front, capsule, blob, back, isText, frontQuote, backQuote, capsuleLetters,
      blobLetters⟩
    have middleFits : ∀ before after, (literal mark.toList
        (seq letterRun (seq (one (.single separator)) letterRun))).Fits before
          (mark.toList ++ (capsule ++ separator :: blob)) after := by
      intro before after
      exact fits_literal_iff.mpr ⟨_, rfl, capsule, _, rfl, fits_letterRun_iff.mpr capsuleLetters,
        [separator], blob, rfl, ⟨separator, rfl, contains_single_iff.mpr rfl⟩,
        fits_letterRun_iff.mpr blobLetters⟩
    exact ⟨text.toList, [], (List.append_nil _).symm, front, _, isText,
      fits_optional_iff.mpr frontQuote, _, back, rfl, middleFits _ _, back, [],
      (List.append_nil _).symm, fits_optional_iff.mpr backQuote, rfl, rfl⟩

end Envelope

end SealedEnv
