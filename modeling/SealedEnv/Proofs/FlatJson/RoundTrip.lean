import SealedEnv.Proofs.FlatJson.Grammar

/-!
Contract: a map that is written as an object is read back.

Owns:
- the written form of a character, a text and a map as one of the forms of the grammar;
- `decode?_encode`, with or without a line feed behind the object.

Does not own: the other forms in which a map may come.
-/

namespace SealedEnv.FlatJson

/-! ## Texts -/

theorem hexValue?_hexDigit
    {n : Nat}
    (small : n < 16) :
    hexValue? (hexDigit n) = some n := by
  have all : ∀ n : Fin 16, hexValue? (hexDigit n) = some n.val := by decide
  exact all ⟨n, small⟩

/-- The four digits of a control character. -/
theorem isUnit_control
    {code : Nat}
    (control : code < 32) :
    IsUnit ['0', '0', hexDigit (code / 16), hexDigit (code % 16)] code := by
  have high := hexValue?_hexDigit (show code / 16 < 16 by omega)
  have low := hexValue?_hexDigit (show code % 16 < 16 by omega)
  have zero : hexValue? '0' = some 0 := rfl
  have whole : code / 16 * 16 + code % 16 = code := by omega
  refine ⟨rfl, ?_⟩
  simp [hexNumber?, zero, high, low, whole]

/-- A character is written in one of the ways to spell it. -/
theorem spells_escapeChar (c : Char) : Spells (escapeChar c) c := by
  unfold escapeChar
  split
  case isTrue isQuote => exact Spells.short (by rw [isQuote]; decide)
  case isFalse notQuote =>
    split
    case isTrue isSlash => exact Spells.short (by rw [isSlash]; decide)
    case isFalse notSlash =>
      split
      case isTrue same => exact Spells.short (by rw [same]; decide)
      case isFalse =>
        split
        case isTrue same => exact Spells.short (by rw [same]; decide)
        case isFalse =>
          split
          case isTrue same => exact Spells.short (by rw [same]; decide)
          case isFalse =>
            split
            case isTrue same => exact Spells.short (by rw [same]; decide)
            case isFalse =>
              split
              case isTrue same => exact Spells.short (by rw [same]; decide)
              case isFalse =>
                split
                case isTrue control =>
                  have spelled := Spells.unit (isUnit_control control)
                    (fun isLead => by have := isLead.1; omega)
                    (fun isTrail => by have := isTrail.1; omega)
                  rwa [Char.ofNat_toNat] at spelled
                case isFalse visible => exact Spells.plain notQuote notSlash (Nat.not_lt.mp visible)

theorem spellsAll_flatMap (chars : List Char) : SpellsAll (chars.flatMap escapeChar) chars := by
  induction chars with
  | nil => exact SpellsAll.nil
  | cons c rest inductionHypothesis =>
      rw [List.flatMap_cons]
      exact SpellsAll.cons (spells_escapeChar c) inductionHypothesis

/-! ## Objects -/

theorem lexes_append
    {front back : List Char}
    {frontTokens backTokens : List Token}
    (frontLexed : Lexes front frontTokens)
    (backLexed : Lexes back backTokens) :
    Lexes (front ++ back) (frontTokens ++ backTokens) := by
  induction frontLexed with
  | nil => exact backLexed
  | blank isBlank _ inductionHypothesis => exact Lexes.blank isBlank inductionHypothesis
  | mark isMark _ inductionHypothesis => exact Lexes.mark isMark inductionHypothesis
  | text spelled _ inductionHypothesis =>
      rw [List.cons_append, List.append_assoc, List.cons_append, List.cons_append]
      exact Lexes.text spelled inductionHypothesis

theorem lexes_encodeText (text : String) : Lexes (encodeText text) [.text text] := by
  have lexed := Lexes.text (spellsAll_flatMap text.toList) Lexes.nil
  rwa [String.ofList_toList] at lexed

theorem lexes_mark
    {c : Char}
    {token : Token}
    (isMark : (c, token) ∈ marks) :
    Lexes [c] [token] :=
  Lexes.mark isMark Lexes.nil

theorem lexes_encodeMember (pair : String × String) :
    Lexes (encodeMember pair) (memberTokens pair) :=
  lexes_append (lexes_encodeText pair.1)
    (lexes_append (lexes_mark (by decide)) (lexes_encodeText pair.2))

theorem lexes_members (pairs : List (String × String)) :
    Lexes ([','].intercalate (pairs.map encodeMember))
      ([.comma].intercalate (pairs.map memberTokens)) := by
  induction pairs with
  | nil => exact Lexes.nil
  | cons pair rest inductionHypothesis =>
      cases rest with
      | nil =>
          simp only [List.map_cons, List.map_nil, List.intercalate, List.intersperse,
            List.flatten_cons, List.flatten_nil, List.append_nil]
          exact lexes_encodeMember pair
      | cons next more =>
          have written : [','].intercalate ((pair :: next :: more).map encodeMember) =
              encodeMember pair ++
                ([','] ++ [','].intercalate ((next :: more).map encodeMember)) := by
            simp [List.intercalate]
          rw [written, intercalate_memberTokens]
          exact lexes_append (lexes_encodeMember pair)
            (lexes_append (lexes_mark (by decide)) inductionHypothesis)

/-- A map is written as the object of its entries. -/
theorem isObject_encode (map : EnvMap) : IsObject (encode map).toList map.entries := by
  unfold IsObject encode objectTokens
  rw [String.toList_ofList]
  exact Lexes.mark (by decide) (lexes_append (lexes_members map.entries) (lexes_mark (by decide)))

/-- A map that is written as an object is read back. -/
theorem decode?_encode (map : EnvMap) : decode? (Utf8.encode (encode map)) = some map :=
  decode?_eq_some_iff.mpr ⟨encode map, map.entries, rfl, isObject_encode map,
    map.ofList_entries.symm⟩

/-- A line feed behind the object is passed over. -/
theorem decode?_encode_feed (map : EnvMap) :
    decode? (Utf8.encode (encode map ++ "\n")) = some map := by
  refine decode?_eq_some_iff.mpr ⟨_, map.entries, rfl, ?_, map.ofList_entries.symm⟩
  have lexed := lexes_append (isObject_encode map) (Lexes.blank (c := '\n') (by decide) Lexes.nil)
  rw [List.append_nil] at lexed
  unfold IsObject
  rw [String.toList_append]
  exact lexed

end SealedEnv.FlatJson
