import SealedEnv.Text.Utf8

/-!
Contract: byte strings as texts in which every character stands for one byte.

Owns:
- `spelled` and `bytes`, which lead there and back.

Does not own: what the bytes mean.
-/

namespace SealedEnv.Host

def charOfByte (byte : UInt8) : Char := Char.ofNat byte.toNat

/-- The text in which each character stands for one of the given bytes. -/
def spelled (bytes : Bytes) : String := String.ofList (bytes.map charOfByte)

def bytes (text : String) : Bytes := text.toList.map fun c => UInt8.ofNat c.toNat

theorem toNat_charOfByte (byte : UInt8) : (charOfByte byte).toNat = byte.toNat := by
  have small : byte.toNat < 256 := byte.toNat_lt
  have valid : byte.toNat.isValidChar := Or.inl (by omega)
  have written : charOfByte byte = Char.ofNatAux byte.toNat valid := dif_pos valid
  rw [written]
  rfl

/-- No byte is lost on the way. -/
theorem bytes_spelled (held : Bytes) : bytes (spelled held) = held := by
  simp [bytes, spelled, Function.comp_def, toNat_charOfByte]

end SealedEnv.Host
