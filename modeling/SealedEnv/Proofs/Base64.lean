import Mathlib.Data.List.Basic
import SealedEnv.Base64
import SealedEnv.Proofs.Text.Trim

/-!
Contract: what is written in base64 is read back.

Owns:
- the alphabet as texts see it: no blank, no line end, no separator, no quote;
- the round trip of one group and of a byte string.

Does not own: which texts are refused.
-/

namespace SealedEnv

/-! ## Texts of seven-bit bytes -/

theorem utf8EncodeChar_ofNat
    {byte : UInt8}
    (small : byte.toNat < 128) :
    String.utf8EncodeChar (Char.ofNat byte.toNat) = [byte] := by
  have all : ∀ code : Fin 128,
      String.utf8EncodeChar (Char.ofNat code) = [UInt8.ofNat code] := by decide
  have found := all ⟨byte.toNat, small⟩
  rwa [UInt8.ofNat_toNat] at found

namespace Utf8

theorem encode_ofList_map
    {bytes : Bytes}
    (small : ∀ byte ∈ bytes, byte.toNat < 128) :
    encode (String.ofList (bytes.map fun byte => Char.ofNat byte.toNat)) = bytes := by
  have flat : (bytes.map fun byte => Char.ofNat byte.toNat).flatMap String.utf8EncodeChar =
      bytes := by
    induction bytes with
    | nil => rfl
    | cons byte rest inductionHypothesis =>
        have restSmall : ∀ other ∈ rest, other.toNat < 128 := by
          intro other member
          exact small other (List.mem_cons_of_mem byte member)
        rw [List.map_cons, List.flatMap_cons, inductionHypothesis restSmall,
          utf8EncodeChar_ofNat (small byte (by simp))]
        rfl
  unfold encode
  rw [String.toByteArray_ofList, List.utf8Encode, flat]
  simp

end Utf8

namespace Base64

/-! ## Symbols -/

theorem value?_symbol
    {value : Nat}
    (small : value < 64) :
    value? (symbol value) = some value := by
  have all : ∀ n : Fin 64, value? (symbol n) = some n.val := by decide
  exact all ⟨value, small⟩

theorem symbol_ne_pad
    {value : Nat}
    (small : value < 64) :
    symbol value ≠ pad := by
  intro isPad
  have read := value?_symbol small
  rw [isPad] at read
  contradiction

/-! ## One group -/

theorem readGroup_symbols
    (offset : Nat)
    {values : List Nat}
    (small : ∀ value ∈ values, value < 64) :
    readGroup offset (values.map symbol) = .ok values := by
  induction values generalizing offset with
  | nil => rfl
  | cons value rest inductionHypothesis =>
      have restSmall : ∀ other ∈ rest, other < 64 := by
        intro other member
        exact small other (List.mem_cons_of_mem value member)
      rw [List.map_cons, readGroup, value?_symbol (small value (by simp))]
      simp only []
      rw [inductionHypothesis _ restSmall]
      rfl

theorem readLast_pads
    (offset position : Nat)
    (firstPad : Option Nat)
    (inside : 2 ≤ position)
    (count : Nat) :
    readLast offset position firstPad (List.replicate count pad) = .ok ([], count) := by
  induction count generalizing position firstPad with
  | zero => rfl
  | succ count inductionHypothesis =>
      rw [List.replicate_succ]
      unfold readLast
      simp only [if_true]
      rw [if_neg (by omega), inductionHypothesis _ _ (by omega)]
      rfl

theorem readLast_symbols
    (offset position : Nat)
    {values : List Nat}
    (small : ∀ value ∈ values, value < 64)
    (count : Nat)
    (inside : 2 ≤ position + values.length) :
    readLast offset position none (values.map symbol ++ List.replicate count pad) =
      .ok (values, count) := by
  induction values generalizing position with
  | nil => exact readLast_pads offset position none inside count
  | cons value rest inductionHypothesis =>
      have valueSmall : value < 64 := small value (by simp)
      have restSmall : ∀ other ∈ rest, other < 64 := by
        intro other member
        exact small other (List.mem_cons_of_mem value member)
      have restInside : 2 ≤ position + 1 + rest.length := by
        rw [List.length_cons] at inside
        omega
      rw [List.map_cons, List.cons_append, readLast, if_neg (symbol_ne_pad valueSmall),
        value?_symbol valueSmall]
      simp only []
      rw [inductionHypothesis _ restSmall restInside]
      rfl

/-- The three bytes whose bits four values share. -/
theorem decodeQuad_split (a b c : UInt8) :
    decodeQuad (a.toNat / 4) (a.toNat % 4 * 16 + b.toNat / 16)
      (b.toNat % 16 * 4 + c.toNat / 64) (c.toNat % 64) = [a, b, c] := by
  have first : a.toNat / 4 * 4 + (a.toNat % 4 * 16 + b.toNat / 16) / 16 = a.toNat := by
    have bound := b.toNat_lt
    omega
  have second : (a.toNat % 4 * 16 + b.toNat / 16) % 16 * 16 +
      (b.toNat % 16 * 4 + c.toNat / 64) / 4 = b.toNat := by
    have bound := b.toNat_lt
    have otherBound := c.toNat_lt
    omega
  have third : (b.toNat % 16 * 4 + c.toNat / 64) % 4 * 64 + c.toNat % 64 = c.toNat := by
    have bound := c.toNat_lt
    omega
  unfold decodeQuad
  rw [first, second, third, UInt8.ofNat_toNat, UInt8.ofNat_toNat, UInt8.ofNat_toNat]

/-- The values of the group of three bytes. -/
def tripleValues (a b c : UInt8) : List Nat :=
  [a.toNat / 4, a.toNat % 4 * 16 + b.toNat / 16, b.toNat % 16 * 4 + c.toNat / 64, c.toNat % 64]

theorem tripleValues_small (a b c : UInt8) : ∀ value ∈ tripleValues a b c, value < 64 := by
  have aBound := a.toNat_lt
  have bBound := b.toNat_lt
  have cBound := c.toNat_lt
  simp only [tripleValues, List.mem_cons, List.not_mem_nil, or_false, forall_eq_or_imp, forall_eq]
  omega

/-- The group of three bytes is read as these. -/
theorem decodeLast_encodeTriple (offset : Nat) (a b c : UInt8) :
    decodeLast offset (encodeTriple a b c) = .ok [a, b, c] := by
  have read : readLast offset 0 none (encodeTriple a b c) = .ok (tripleValues a b c, 0) :=
    readLast_symbols offset 0 (tripleValues_small a b c) 0 (by simp [tripleValues])
  have quad := decodeQuad_split a b c
  unfold decodeLast
  rw [read]
  simpa [bind, Except.bind, pure, Except.pure, encodeTriple, tripleValues] using quad

/-- The group of two last bytes is that of three, a zero being the third, without the symbol that
only the third gives. -/
theorem decodeLast_encodeRest_two (offset : Nat) (a b : UInt8) :
    decodeLast offset (encodeRest [a, b]) = .ok [a, b] := by
  have small : ∀ value ∈ (tripleValues a b 0).take 3, value < 64 := by
    intro value member
    exact tripleValues_small a b 0 value (List.mem_of_mem_take member)
  have read : readLast offset 0 none (encodeRest [a, b]) =
      .ok ((tripleValues a b 0).take 3, 1) :=
    readLast_symbols offset 0 small 1 (by simp [tripleValues])
  have quad := decodeQuad_split a b 0
  have unused : b.toNat % 16 * 4 % 4 = 0 := by omega
  unfold decodeLast
  rw [read]
  simp_all [bind, Except.bind, pure, Except.pure, encodeRest, tripleValues]

/-- The group of one last byte is that of three, zeros being the others, without the symbols that
only these give. -/
theorem decodeLast_encodeRest_one (offset : Nat) (a : UInt8) :
    decodeLast offset (encodeRest [a]) = .ok [a] := by
  have small : ∀ value ∈ (tripleValues a 0 0).take 2, value < 64 := by
    intro value member
    exact tripleValues_small a 0 0 value (List.mem_of_mem_take member)
  have read : readLast offset 0 none (encodeRest [a]) = .ok ((tripleValues a 0 0).take 2, 2) :=
    readLast_symbols offset 0 small 2 (by simp [tripleValues])
  have quad := decodeQuad_split a 0 0
  have unused : a.toNat % 4 * 16 % 16 = 0 := by omega
  unfold decodeLast
  rw [read]
  simp_all [bind, Except.bind, pure, Except.pure, encodeRest, tripleValues]

/-! ## Byte strings -/

/-- The induction that follows the groups of three bytes. -/
@[elab_as_elim]
theorem triple_induction
    {motive : Bytes → Prop}
    (nil : motive [])
    (one : ∀ a, motive [a])
    (two : ∀ a b, motive [a, b])
    (triple : ∀ a b c rest, motive rest → motive (a :: b :: c :: rest)) :
    ∀ bytes, motive bytes
  | [] => nil
  | [a] => one a
  | [a, b] => two a b
  | a :: b :: c :: rest => triple a b c rest (triple_induction nil one two triple rest)

theorem encodeAfter_eq (done bytes : Bytes) :
    encodeAfter done bytes = done.reverse ++ encodeBytes bytes := by
  unfold encodeBytes
  induction bytes using triple_induction generalizing done with
  | nil => simp [encodeAfter, encodeRest]
  | one a => simp [encodeAfter]
  | two a b => simp [encodeAfter]
  | triple a b c rest inductionHypothesis =>
      rw [encodeAfter, inductionHypothesis, encodeAfter, inductionHypothesis (_ ++ [])]
      simp

@[simp] theorem encodeBytes_nil : encodeBytes [] = [] := rfl

theorem encodeBytes_triple (a b c : UInt8) (rest : Bytes) :
    encodeBytes (a :: b :: c :: rest) = encodeTriple a b c ++ encodeBytes rest := by
  rw [encodeBytes, encodeAfter, encodeAfter_eq]
  simp

theorem length_encodeBytes_mod (bytes : Bytes) : (encodeBytes bytes).length % 4 = 0 := by
  induction bytes using triple_induction with
  | nil => rfl
  | one a => simp [encodeBytes, encodeAfter, encodeRest]
  | two a b => simp [encodeBytes, encodeAfter, encodeRest]
  | triple a b c rest inductionHypothesis =>
      rw [encodeBytes_triple, List.length_append]
      simp only [encodeTriple, List.length_cons, List.length_nil]
      omega

/-- Holds of the bytes that a base64 text is made of. -/
def IsSymbol (byte : UInt8) : Prop := byte = pad ∨ ∃ value < 64, byte = symbol value

theorem isSymbol_of_mem_group
    {values : List Nat}
    (small : ∀ value ∈ values, value < 64)
    (pads : Nat)
    {byte : UInt8}
    (member : byte ∈ values.map symbol ++ List.replicate pads pad) :
    IsSymbol byte := by
  rcases List.mem_append.mp member with isSymbol | isPad
  · obtain ⟨value, inValues, rfl⟩ := List.mem_map.mp isSymbol
    exact .inr ⟨value, small value inValues, rfl⟩
  · exact .inl (List.eq_of_mem_replicate isPad)

theorem isSymbol_of_mem_encodeBytes
    {bytes : Bytes}
    {byte : UInt8}
    (member : byte ∈ encodeBytes bytes) :
    IsSymbol byte := by
  induction bytes using triple_induction with
  | nil => simp at member
  | one a =>
      have small : ∀ value ∈ (tripleValues a 0 0).take 2, value < 64 := by
        intro value inside
        exact tripleValues_small a 0 0 value (List.mem_of_mem_take inside)
      exact isSymbol_of_mem_group small 2 member
  | two a b =>
      have small : ∀ value ∈ (tripleValues a b 0).take 3, value < 64 := by
        intro value inside
        exact tripleValues_small a b 0 value (List.mem_of_mem_take inside)
      exact isSymbol_of_mem_group small 1 member
  | triple a b c rest inductionHypothesis =>
      rw [encodeBytes_triple] at member
      rcases List.mem_append.mp member with inFirst | inRest
      · exact isSymbol_of_mem_group (tripleValues_small a b c) 0 inFirst
      · exact inductionHypothesis inRest

theorem eq_nil_of_encodeBytes_eq_nil
    {bytes : Bytes}
    (empty : encodeBytes bytes = []) :
    bytes = [] := by
  induction bytes using triple_induction with
  | nil => rfl
  | one a => simp [encodeBytes, encodeAfter, encodeRest] at empty
  | two a b => simp [encodeBytes, encodeAfter, encodeRest] at empty
  | triple a b c rest inductionHypothesis =>
      rw [encodeBytes_triple] at empty
      simp [encodeTriple] at empty

/-- The groups of a byte string are read one after the other. -/
theorem decodeAfter_encodeBytes (offset : Nat) (done bytes : Bytes) :
    decodeAfter offset done (encodeBytes bytes) = .ok (done.reverse ++ bytes) := by
  induction bytes using triple_induction generalizing offset done with
  | nil => rfl
  | one a =>
      change (done.reverse ++ ·) <$> decodeLast offset (encodeRest [a]) = _
      rw [decodeLast_encodeRest_one]
      rfl
  | two a b =>
      change (done.reverse ++ ·) <$> decodeLast offset (encodeRest [a, b]) = _
      rw [decodeLast_encodeRest_two]
      rfl
  | triple a b c rest inductionHypothesis =>
      rw [encodeBytes_triple]
      cases more : encodeBytes rest with
      | nil =>
          rw [eq_nil_of_encodeBytes_eq_nil more, List.append_nil]
          change (done.reverse ++ ·) <$> decodeLast offset (encodeTriple a b c) = _
          rw [decodeLast_encodeTriple]
          rfl
      | cons next others =>
          have group : readGroup offset (encodeTriple a b c) = .ok (tripleValues a b c) :=
            readGroup_symbols offset (tripleValues_small a b c)
          have continued := inductionHypothesis (offset + 4) ([a, b, c].reverse ++ done)
          rw [more] at continued
          unfold encodeTriple at group ⊢
          simp only [List.cons_append, List.nil_append, decodeAfter, group, tripleValues,
            decodeQuad_split]
          rw [continued]
          simp

/-- The bytes of a base64 text are its symbols. -/
theorem utf8Encode_encode (bytes : Bytes) : Utf8.encode (encode bytes) = encodeBytes bytes := by
  apply Utf8.encode_ofList_map
  intro byte member
  rcases isSymbol_of_mem_encodeBytes member with rfl | ⟨value, valueSmall, rfl⟩
  · decide
  · have all : ∀ n : Fin 64, (symbol n).toNat < 128 := by decide
    exact all ⟨value, valueSmall⟩

/-- What is written in base64 is read back. -/
theorem decode_encode (bytes : Bytes) : decode (encode bytes) = .ok bytes := by
  unfold decode
  rw [utf8Encode_encode]
  unfold decodeBytes
  have groups := length_encodeBytes_mod bytes
  cases final : (encodeBytes bytes).getLast? with
  | none =>
      rw [eq_nil_of_encodeBytes_eq_nil (List.getLast?_eq_none_iff.mp final)]
  | some last =>
      simp only [groups, Nat.zero_ne_one, decide_false, Bool.false_and, Bool.false_eq_true,
        if_false]
      simpa using decodeAfter_encodeBytes 0 [] bytes

/-- No character of a base64 text is a blank, a separator or a quote. -/
theorem not_blank_of_mem_encode
    {bytes : Bytes}
    {c : Char}
    (member : c ∈ (encode bytes).toList) :
    Text.isBlank c = false ∧ c ≠ ':' ∧ c ≠ '\'' := by
  rw [encode, String.toList_ofList] at member
  obtain ⟨byte, inSymbols, rfl⟩ := List.mem_map.mp member
  rcases isSymbol_of_mem_encodeBytes inSymbols with rfl | ⟨value, valueSmall, rfl⟩
  · decide
  · have all : ∀ n : Fin 64, Text.isBlank (Char.ofNat (symbol n).toNat) = false ∧
        Char.ofNat (symbol n).toNat ≠ ':' ∧ Char.ofNat (symbol n).toNat ≠ '\'' := by decide
    exact all ⟨value, valueSmall⟩

end Base64

end SealedEnv
