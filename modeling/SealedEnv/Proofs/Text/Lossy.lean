import Mathlib.Algebra.Group.Nat.Defs
import Mathlib.Tactic.SplitIfs
import SealedEnv.Text.Utf8

/-!
Contract: what the reading with replacements shows of a byte string.

Owns:
- the pieces of a byte string without their accumulator;
- the law that a byte above those of ASCII never starts a piece that is shown as an ASCII character;
- the law that an ASCII text is shown in front of exactly the byte strings that begin with it.

Does not own: how long broken stretches are.
-/

namespace SealedEnv.Utf8

/-! ## Pieces -/

/-- The character that stands for a piece. -/
def Piece.shown : Piece → Char
  | .char c => c
  | .broken _ => '\ufffd'

theorem toList_decodeLossy (bytes : Bytes) :
    (decodeLossy bytes).toList = (pieces bytes).map Piece.shown := by
  unfold decodeLossy
  rw [String.toList_ofList]
  apply List.map_congr_left
  intro piece _
  cases piece with
  | char c => rfl
  | broken stretch => rfl

/-- The piece that a byte string starts with. -/
def firstPiece (first : UInt8) (rest : Bytes) : Piece :=
  if first < 0x80 then .char (Char.ofNat first.toNat)
  else match Lead.ofByte? first with
    | none => .broken [first]
    | some lead => lead.piece first (lead.continuation rest)

/-- How many bytes after the first one belong to its piece. -/
def tailLength (first : UInt8) (rest : Bytes) : Nat :=
  if first < 0x80 then 0
  else match Lead.ofByte? first with
    | none => 0
    | some lead => (lead.continuation rest).length

theorem piecesAfter_cons (done : List Piece) (first : UInt8) (rest : Bytes) :
    piecesAfter done (first :: rest) =
      piecesAfter (firstPiece first rest :: done) (rest.drop (tailLength first rest)) := by
  conv => lhs; rw [piecesAfter]
  unfold firstPiece tailLength
  by_cases small : first < 0x80
  · simp only [if_pos small, List.drop_zero]
  · simp only [if_neg small]
    cases Lead.ofByte? first with
    | none => rfl
    | some lead => rfl

theorem piecesAfter_eq (done : List Piece) (bytes : Bytes) :
    piecesAfter done bytes = done.reverse ++ pieces bytes := by
  unfold pieces
  cases bytes with
  | nil => simp [piecesAfter]
  | cons first rest =>
      rw [piecesAfter_cons, piecesAfter_cons, piecesAfter_eq (_ :: done), piecesAfter_eq [_]]
      simp
termination_by bytes.length
decreasing_by
  all_goals simp only [List.length_cons, List.length_drop]
  all_goals omega

@[simp] theorem pieces_nil : pieces [] = [] := by
  unfold pieces piecesAfter
  rfl

theorem pieces_cons (first : UInt8) (rest : Bytes) :
    pieces (first :: rest) =
      firstPiece first rest :: pieces (rest.drop (tailLength first rest)) := by
  conv => lhs; rw [pieces, piecesAfter_cons, piecesAfter_eq]
  rfl

theorem pieces_cons_of_small {first : UInt8} (small : first < 0x80) (rest : Bytes) :
    pieces (first :: rest) = .char (Char.ofNat first.toNat) :: pieces rest := by
  rw [pieces_cons, firstPiece, tailLength, if_pos small, if_pos small, List.drop_zero]

/-! ## Pieces of several bytes -/

/-- What a leading byte allows is no code point of ASCII. -/
theorem Lead.bounds
    {first : UInt8}
    {lead : Lead}
    (isLead : ofByte? first = some lead) :
    0 < lead.tail ∧
      0x80 ≤ (lead.bits * 64 + (lead.low.toNat - 0x80)) * 64 ^ (lead.tail - 1) := by
  unfold ofByte? at isLead
  simp only [Bool.and_eq_true, decide_eq_true_eq, UInt8.le_iff_toNat_le, beq_iff_eq] at isLead
  split_ifs at isLead
  all_goals cases isLead
  -- In each range of leading bytes the bound is met by the least of them.
  all_goals simp only [UInt8.reduceToNat] at *
  all_goals constructor
  all_goals omega

/-- Each byte that continues a character moves what was read by six bits. -/
theorem le_foldl_code (code : Nat) (tail : Bytes) :
    code * 64 ^ tail.length ≤
      tail.foldl (fun code byte => code * 64 + (byte.toNat - 0x80)) code := by
  induction tail generalizing code with
  | nil => simp
  | cons byte tail inductionHypothesis =>
      have shifted : code * 64 ^ (tail.length + 1) = code * 64 * 64 ^ tail.length := by
        rw [Nat.pow_succ', Nat.mul_assoc]
      rw [List.length_cons, List.foldl_cons, shifted]
      exact Nat.le_trans (Nat.mul_le_mul_right _ (Nat.le_add_right _ _)) (inductionHypothesis _)

/-- The code point of a character of several bytes is none of ASCII. -/
theorem Lead.le_code
    {first : UInt8}
    {lead : Lead}
    (isLead : ofByte? first = some lead)
    {rest : Bytes}
    (whole : (lead.continuation rest).length = lead.tail) :
    0x80 ≤ (lead.continuation rest).foldl
      (fun code byte => code * 64 + (byte.toNat - 0x80)) lead.bits := by
  obtain ⟨filled, enough⟩ := bounds isLead
  cases rest with
  | nil =>
      have empty : lead.continuation [] = [] := rfl
      rw [empty, List.length_nil] at whole
      omega
  | cons second more =>
      unfold continuation at whole ⊢
      dsimp only at whole ⊢
      by_cases within : lead.low ≤ second && second ≤ lead.high
      · rw [if_pos within, List.length_cons] at whole
        rw [if_pos within, List.foldl_cons]
        have notLess : lead.low.toNat ≤ second.toNat := by
          simpa [UInt8.le_iff_toNat_le] using (Bool.and_eq_true_iff.mp within).1
        refine Nat.le_trans enough (Nat.le_trans ?_ (le_foldl_code _ _))
        rw [Nat.eq_sub_of_add_eq whole]
        apply Nat.mul_le_mul_right
        omega
      · rw [if_neg within, List.length_nil] at whole
        omega

/-- Holds of the characters that are no ASCII characters, and of the null character. -/
def isForeign (c : Char) : Bool := c.toNat = 0 || 0x80 ≤ c.toNat

theorem isForeign_ofNat {code : Nat} (large : 0x80 ≤ code) :
    isForeign (Char.ofNat code) = true := by
  by_cases valid : code.isValidChar
  · have isCode : Char.ofNat code = Char.ofNatAux code valid := dif_pos valid
    rw [isCode]
    show (decide (code = 0) || decide (0x80 ≤ code)) = true
    rw [decide_eq_true large, Bool.or_true]
  · have isNull : Char.ofNat code = '\x00' := dif_neg valid
    rw [isNull]
    rfl

/-- A byte above those of ASCII starts a piece that is not shown as an ASCII character. -/
theorem isForeign_firstPiece
    {first : UInt8}
    (large : ¬first < 0x80)
    (rest : Bytes) :
    isForeign (firstPiece first rest).shown = true := by
  unfold firstPiece
  rw [if_neg large]
  split
  · rfl
  · rename_i lead isLead
    unfold Lead.piece
    split
    · rename_i whole
      exact isForeign_ofNat (Lead.le_code isLead whole)
    · rfl

/-! ## Texts in front -/

/-- An ASCII character other than the null character is shown for its byte, and for no other one. -/
theorem ofNat_toNat_eq_iff
    {c : Char}
    (plain : isForeign c = false)
    {first : UInt8} :
    UInt8.ofNat c.toNat = first ↔ first < 0x80 ∧ c = Char.ofNat first.toNat := by
  have small : c.toNat < 0x80 := by
    simp only [isForeign, Bool.or_eq_false_iff, decide_eq_false_iff_not] at plain
    omega
  simp only [UInt8.lt_iff_toNat_lt, UInt8.reduceToNat]
  constructor
  · rintro rfl
    have same : (UInt8.ofNat c.toNat).toNat = c.toNat :=
      UInt8.toNat_ofNat_of_lt' (Nat.lt_trans small (by decide))
    rw [same, Char.ofNat_toNat]
    exact ⟨small, rfl⟩
  · intro ⟨firstSmall, same⟩
    have valid : first.toNat.isValidChar := Or.inl (by omega)
    have written : c = Char.ofNatAux first.toNat valid := same.trans (dif_pos valid)
    rw [written]
    exact UInt8.ofNat_toNat

/-- An ASCII text without null characters is shown in front exactly if its bytes stand in front:
neither a broken stretch nor an overlong form passes for one of its characters, and no byte after
them changes how they are read. -/
theorem isPrefixOf_decodeLossy
    {text : List Char}
    (plain : ∀ c ∈ text, isForeign c = false)
    (bytes : Bytes) :
    text.isPrefixOf (decodeLossy bytes).toList =
      (text.map fun c => UInt8.ofNat c.toNat).isPrefixOf bytes := by
  rw [toList_decodeLossy]
  induction text generalizing bytes with
  | nil => rfl
  | cons c text inductionHypothesis =>
      obtain ⟨plainFirst, plainRest⟩ := List.forall_mem_cons.mp plain
      cases bytes with
      | nil =>
          rw [pieces_nil]
          rfl
      | cons first rest =>
          rw [List.map_cons]
          by_cases small : first < 0x80
          · have sameFirst : (c == Char.ofNat first.toNat) = (UInt8.ofNat c.toNat == first) := by
              rw [Bool.eq_iff_iff, beq_iff_eq, beq_iff_eq, ofNat_toNat_eq_iff plainFirst]
              exact (and_iff_right small).symm
            rw [pieces_cons_of_small small, List.map_cons, List.isPrefixOf_cons_cons,
              List.isPrefixOf_cons_cons, Piece.shown, sameFirst, inductionHypothesis plainRest]
          · have differentShown : (c == (firstPiece first rest).shown) = false := by
              apply beq_eq_false_iff_ne.mpr
              intro same
              have foreign := isForeign_firstPiece small rest
              rw [← same, plainFirst] at foreign
              contradiction
            have differentByte : (UInt8.ofNat c.toNat == first) = false := by
              apply beq_eq_false_iff_ne.mpr
              intro same
              exact small ((ofNat_toNat_eq_iff plainFirst).mp same).1
            rw [pieces_cons, List.map_cons, List.isPrefixOf_cons_cons, List.isPrefixOf_cons_cons,
              differentShown, differentByte, Bool.false_and, Bool.false_and]

end SealedEnv.Utf8
