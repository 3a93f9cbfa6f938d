/-
  Smile2Unlock.Common.FeatureHex

  Face features as text: FaceRecognizer writes the bytes of its floats in upper-case
  hexadecimal (`EncodeBytesToHex`), the service reads them in groups of four
  (`DecodeFeatureHex`).
-/

import Smile2Unlock.Common.Text
import Smile2Unlock.Lib.Hex

namespace Smile2Unlock

open Lib

/-- `kHex`. -/
def kHex : Bytes := utf8 "0123456789ABCDEF"

/-- `EncodeBytesToHex`. -/
def encodeBytesToHex (data : Bytes) : Bytes := Hex.encodeWith (fun n => kHex.getD n 0) data

theorem value_kHex : ∀ n < 16, Hex.value (kHex.getD n 0) = some n := by
  have hall : ∀ m : Fin 16, Hex.value (kHex.getD m 0) = some m.val := by decide
  exact fun n hn => hall ⟨n, hn⟩

@[simp] theorem length_encodeBytesToHex (data : Bytes) :
    (encodeBytesToHex data).length = 2 * data.length := Hex.length_encodeWith _ data

theorem decode_encodeBytesToHex (data : Bytes) : Hex.decode (encodeBytesToHex data) = some data :=
  Hex.decode_encodeWith value_kHex data

end Smile2Unlock
