import SealedEnv.Proofs.Base64

/-!
Contract: base64 is read from one text alone, the one that writing gives.

Owns:
- the groups that are read, as the symbols of their values and their pads;
- `decode_eq_ok_iff`, which makes reading the exact inverse of writing.

Does not own: the causes that a refusal names.
-/

namespace SealedEnv.Base64

/-! ## Symbols and groups -/

theorem eq_symbol_of_value?
    {byte : UInt8}
    {value : Nat}
    (read : value? byte = some value) :
    byte = symbol value ∧ value < 64 := by
  have all : ∀ code : Fin 256, (value? (UInt8.ofNat code)).all fun value =>
      UInt8.ofNat code = symbol value && decide (value < 64) := by decide +kernel
  have found := all ⟨byte.toNat, byte.toNat_lt⟩
  rw [UInt8.ofNat_toNat, read] at found
  simpa using found

/-- A group that is read holds the symbols of its values. -/
theorem eq_symbols_of_readGroup
    {offset : Nat}
    {group : Bytes}
    {values : List Nat}
    (read : readGroup offset group = .ok values) :
    group = values.map symbol ∧ ∀ value ∈ values, value < 64 := by
  induction group generalizing offset values with
  | nil =>
      cases read
      exact ⟨rfl, by simp⟩
  | cons byte rest inductionHypothesis =>
      unfold readGroup at read
      cases valueRead : value? byte with
      | none => simp [valueRead] at read
      | some value =>
          obtain ⟨isSymbol, small⟩ := eq_symbol_of_value? valueRead
          cases restRead : readGroup (offset + 1) rest with
          | error cause => simp [valueRead, restRead, Functor.map, Except.map] at read
          | ok others =>
              obtain ⟨areSymbols, othersSmall⟩ := inductionHypothesis restRead
              simp only [valueRead, restRead, Functor.map, Except.map, Except.ok.injEq] at read
              subst read
              exact ⟨by rw [List.map_cons, ← isSymbol, ← areSymbols],
                List.forall_mem_cons.mpr ⟨small, othersSmall⟩⟩

/-- A last group that is read holds the symbols of its values and then pads alone. -/
theorem eq_symbols_of_readLast
    {offset position : Nat}
    {firstPad : Option Nat}
    {group : Bytes}
    {values : List Nat}
    {pads : Nat}
    (read : readLast offset position firstPad group = .ok (values, pads)) :
    group = values.map symbol ++ List.replicate pads pad ∧
      (∀ value ∈ values, value < 64) ∧ (firstPad.isSome = true → values = []) := by
  induction group generalizing position firstPad values pads with
  | nil =>
      cases read
      exact ⟨rfl, by simp, fun _ => rfl⟩
  | cons byte rest inductionHypothesis =>
      unfold readLast at read
      split at read
      case isTrue isPad =>
        split at read
        case isTrue => contradiction
        case isFalse =>
          cases restRead : readLast offset (position + 1)
              (firstPad <|> some (offset + position)) rest with
          | error cause =>
              rw [restRead] at read
              contradiction
          | ok found =>
              obtain ⟨others, fewer⟩ := found
              obtain ⟨shape, -, onlyPads⟩ := inductionHypothesis restRead
              have seen : (firstPad <|> some (offset + position)).isSome = true := by
                cases firstPad <;> rfl
              obtain rfl : others = [] := onlyPads seen
              simp only [restRead, bind, Except.bind, pure, Except.pure, Except.ok.injEq,
                Prod.mk.injEq] at read
              obtain ⟨rfl, rfl⟩ := read
              refine ⟨?_, by simp, fun _ => rfl⟩
              rw [isPad, shape]
              rfl
      case isFalse =>
        cases firstPad with
        | some place => simp at read
        | none =>
            cases valueRead : value? byte with
            | none => simp [valueRead] at read
            | some value =>
                obtain ⟨isSymbol, small⟩ := eq_symbol_of_value? valueRead
                cases restRead : readLast offset (position + 1) none rest with
                | error cause => simp [valueRead, restRead, bind, Except.bind] at read
                | ok found =>
                    obtain ⟨others, fewer⟩ := found
                    obtain ⟨shape, othersSmall, -⟩ := inductionHypothesis restRead
                    simp only [valueRead, restRead, bind, Except.bind, pure, Except.pure,
                      Except.ok.injEq, Prod.mk.injEq] at read
                    obtain ⟨rfl, rfl⟩ := read
                    refine ⟨?_, List.forall_mem_cons.mpr ⟨small, othersSmall⟩, by simp⟩
                    rw [isSymbol, shape]
                    rfl

/-! ## Four values as three bytes -/

/-- The three bytes of four values are written as these values. -/
theorem encodeTriple_quad
    {a b c d : Nat}
    (small : ∀ value ∈ [a, b, c, d], value < 64) :
    encodeTriple (UInt8.ofNat (a * 4 + b / 16)) (UInt8.ofNat (b % 16 * 16 + c / 4))
      (UInt8.ofNat (c % 4 * 64 + d)) = [a, b, c, d].map symbol := by
  simp only [List.mem_cons, List.not_mem_nil, or_false, forall_eq_or_imp, forall_eq] at small
  obtain ⟨aSmall, bSmall, cSmall, dSmall⟩ := small
  have first : (a * 4 + b / 16) / 4 = a := by omega
  have second : (a * 4 + b / 16) % 4 * 16 + (b % 16 * 16 + c / 4) / 16 = b := by omega
  have third : (b % 16 * 16 + c / 4) % 16 * 4 + (c % 4 * 64 + d) / 64 = c := by omega
  have fourth : (c % 4 * 64 + d) % 64 = d := by omega
  have firstByte := UInt8.toNat_ofNat_of_lt' (show a * 4 + b / 16 < 256 by omega)
  have secondByte := UInt8.toNat_ofNat_of_lt' (show b % 16 * 16 + c / 4 < 256 by omega)
  have thirdByte := UInt8.toNat_ofNat_of_lt' (show c % 4 * 64 + d < 256 by omega)
  unfold encodeTriple
  rw [firstByte, secondByte, thirdByte, first, second, third, fourth]
  rfl

/-- Two values of which no bit is unused are those that one byte is written as. -/
theorem encodeRest_one_quad
    {a b : Nat}
    (small : ∀ value ∈ [a, b], value < 64)
    (unused : b % 16 = 0) :
    encodeRest [UInt8.ofNat (a * 4 + b / 16)] = [a, b].map symbol ++ List.replicate 2 pad := by
  simp only [List.mem_cons, List.not_mem_nil, or_false, forall_eq_or_imp, forall_eq] at small
  obtain ⟨aSmall, bSmall⟩ := small
  have first : (a * 4 + b / 16) / 4 = a := by omega
  have second : (a * 4 + b / 16) % 4 * 16 = b := by omega
  have firstByte := UInt8.toNat_ofNat_of_lt' (show a * 4 + b / 16 < 256 by omega)
  rw [encodeRest, firstByte, first, second]
  rfl

/-- Three values of which no bit is unused are those that two bytes are written as. -/
theorem encodeRest_two_quad
    {a b c : Nat}
    (small : ∀ value ∈ [a, b, c], value < 64)
    (unused : c % 4 = 0) :
    encodeRest [UInt8.ofNat (a * 4 + b / 16), UInt8.ofNat (b % 16 * 16 + c / 4)] =
      [a, b, c].map symbol ++ List.replicate 1 pad := by
  simp only [List.mem_cons, List.not_mem_nil, or_false, forall_eq_or_imp, forall_eq] at small
  obtain ⟨aSmall, bSmall, cSmall⟩ := small
  have first : (a * 4 + b / 16) / 4 = a := by omega
  have second : (a * 4 + b / 16) % 4 * 16 + (b % 16 * 16 + c / 4) / 16 = b := by omega
  have third : (b % 16 * 16 + c / 4) % 16 * 4 = c := by omega
  have firstByte := UInt8.toNat_ofNat_of_lt' (show a * 4 + b / 16 < 256 by omega)
  have secondByte := UInt8.toNat_ofNat_of_lt' (show b % 16 * 16 + c / 4 < 256 by omega)
  rw [encodeRest, firstByte, secondByte, first, second, third]
  rfl

/-! ## Byte strings -/

/-- The last group is read only in the form in which its bytes are written: with all its pads, and
with no unused bit set. -/
theorem eq_encodeBytes_of_decodeLast
    {offset : Nat}
    {group bytes : Bytes}
    (read : decodeLast offset group = .ok bytes) :
    group = encodeBytes bytes := by
  unfold decodeLast at read
  cases groupRead : readLast offset 0 none group with
  | error cause =>
      rw [groupRead] at read
      contradiction
  | ok found =>
      obtain ⟨values, pads⟩ := found
      obtain ⟨shape, small, -⟩ := eq_symbols_of_readLast groupRead
      simp only [groupRead, bind, Except.bind, pure, Except.pure, throw, throwThe,
        MonadExceptOf.throw] at read
      split at read
      case isTrue isEmpty =>
        cases read
        exact List.isEmpty_iff.mp isEmpty
      case isFalse =>
        split at read
        case isTrue => contradiction
        case isFalse enough =>
          split at read
          case isTrue => contradiction
          case isFalse full =>
            have count : values.length + pads = 4 := by omega
            -- As many values as a group of one, two or three bytes has.
            match values, shape, small, enough, count, read with
            | [a, b], shape, small, _, count, read =>
                simp only [ne_eq, ite_not] at read
                split at read
                case isTrue unused =>
                  cases read
                  obtain rfl : pads = 2 := by
                    simp only [List.length_cons, List.length_nil] at count
                    omega
                  rw [shape, ← encodeRest_one_quad small unused]
                  rfl
                case isFalse => contradiction
            | [a, b, c], shape, small, _, count, read =>
                simp only [ne_eq, ite_not] at read
                split at read
                case isTrue unused =>
                  cases read
                  obtain rfl : pads = 1 := by
                    simp only [List.length_cons, List.length_nil] at count
                    omega
                  rw [shape, ← encodeRest_two_quad small unused]
                  rfl
                case isFalse => contradiction
            | [a, b, c, d], shape, small, _, count, read =>
                cases read
                obtain rfl : pads = 0 := by simpa using count
                rw [shape, ← encodeTriple_quad small]
                rfl
            | [], _, _, enough, _, _ => simp at enough
            | [a], _, _, enough, _, _ => simp at enough
            | a :: b :: c :: d :: e :: more, _, _, _, count, _ =>
                simp only [List.length_cons] at count
                omega

/-- The groups that are read are those that the bytes are written in. -/
theorem eq_encodeBytes_of_decodeAfter
    {offset : Nat}
    {done symbols result : Bytes}
    (read : decodeAfter offset done symbols = .ok result) :
    ∃ bytes, result = done.reverse ++ bytes ∧ symbols = encodeBytes bytes := by
  fun_induction decodeAfter offset done symbols with
  | case1 offset done w x y z e rest a b c d groupRead inductionHypothesis =>
      obtain ⟨more, isResult, areSymbols⟩ := inductionHypothesis read
      obtain ⟨group, small⟩ := eq_symbols_of_readGroup groupRead
      refine ⟨decodeQuad a b c d ++ more, ?_, ?_⟩
      · rw [isResult]
        simp
      · have triple := encodeTriple_quad small
        rw [← group] at triple
        show [w, x, y, z] ++ (e :: rest) = encodeBytes (_ :: _ :: _ :: more)
        rw [encodeBytes_triple, triple, areSymbols]
  | case2 offset done w x y z e rest values notFour groupRead =>
      obtain ⟨group, -⟩ := eq_symbols_of_readGroup groupRead
      have count : values.length = 4 := by
        have lengths := congrArg List.length group
        rw [List.length_map] at lengths
        exact lengths.symm
      obtain ⟨a, b, c, d, rfl⟩ := List.length_eq_four.mp count
      exact absurd rfl (notFour a b c d)
  | case3 => contradiction
  | case4 offset done group notLong =>
      cases lastRead : decodeLast offset group with
      | error cause =>
          rw [lastRead] at read
          contradiction
      | ok bytes =>
          rw [lastRead] at read
          cases read
          exact ⟨bytes, rfl, eq_encodeBytes_of_decodeLast lastRead⟩

/-- A text is read as some bytes exactly if it is what these bytes are written as. -/
theorem decode_eq_ok_iff
    {text : String}
    {bytes : Bytes} :
    decode text = .ok bytes ↔ text = encode bytes := by
  constructor
  · intro read
    have isWritten : Utf8.encode text = encodeBytes bytes := by
      unfold decode decodeBytes at read
      split at read
      case h_1 last _ =>
        split at read
        case isTrue => contradiction
        case isFalse =>
          obtain ⟨found, isFound, areSymbols⟩ := eq_encodeBytes_of_decodeAfter read
          rw [areSymbols, isFound]
          rfl
      case h_2 isEmpty =>
        cases read
        exact List.getLast?_eq_none_iff.mp isEmpty
    apply Utf8.encode_injective
    rw [isWritten, utf8Encode_encode]
  · rintro rfl
    exact decode_encode bytes

end SealedEnv.Base64
