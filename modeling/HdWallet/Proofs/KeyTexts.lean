/-
The texts of a key lead back to it. Neither text form has white space or the mark of a
hexadecimal number in it, so what `Keypair` takes off a text before it reads it leaves a key's own
texts as they are (`Keypair.ofSecretSeed_encode`, `Keypair.ofHex_encode`).
-/
import HdWallet.Keypair
import HdWallet.Proofs.StrKeyCoding
import HdWallet.Proofs.Trimming

namespace HdWallet

namespace Hex

theorem mem_digits_of_mem_encode {bytes : List UInt8} {c : Char}
    (h : c ∈ (encode bytes).toList) : c ∈ digits := by
  have hdigit : ∀ value, value < digits.length → digit value ∈ digits := fun value hvalue =>
    getD_mem hvalue '0'
  have hlength : digits.length = 16 := rfl
  rw [encode, String.toList_ofList, List.mem_flatMap] at h
  obtain ⟨byte, -, hc⟩ := h
  have hbyte := byte.toNat_lt
  simp only [List.mem_cons, List.not_mem_nil, or_false] at hc
  rcases hc with rfl | rfl
  · exact hdigit _ (by omega)
  · exact hdigit _ (by omega)

end Hex

namespace StrKey

theorem isWhiteSpace_of_mem_encode {kind : StrKey} {key : Bytes 32} {c : Char}
    (h : c ∈ (encode kind key).toList) : Unicode.isWhiteSpace c = false := by
  have hall : Base32.alphabet.all (!Unicode.isWhiteSpace ·) = true := by decide
  simpa using List.all_eq_true.1 hall c (Base32.mem_alphabet_of_mem_encode h)

end StrKey

namespace Keypair

theorem ofSecretSeed_encode (key : Bytes 32) :
    ofSecretSeed (StrKey.encode .secretSeed key) = .ok ⟨key⟩ := by
  rw [ofSecretSeed, Unicode.trimmed_of_solid fun _ => StrKey.isWhiteSpace_of_mem_encode,
    StrKey.decode_encode]
  rfl

theorem dropHexMark_of_not_mem {chars : List Char} (h : 'x' ∉ chars) :
    dropHexMark chars = chars := by
  unfold dropHexMark
  split
  · simp at h
  · rfl

theorem ofHex_encode (key : Bytes 32) : ofHex (Hex.encode key.toList) = .ok ⟨key⟩ := by
  have hmark : 'x' ∉ (Hex.encode key.toList).toList := fun hx =>
    absurd (Hex.mem_digits_of_mem_encode hx) (by decide)
  have hbytes : Hex.decodeChars? (Hex.encode key.toList).toList = some key.toList :=
    Hex.decode?_encode key.toList
  have hkey : Bytes.ofList? 32 key.toList = some key := Bytes.ofList?_eq_some_iff.2 rfl
  rw [ofHex, dropHexMark_of_not_mem hmark, hbytes]
  simp only [hkey]

end Keypair

end HdWallet
