import Mathlib.Algebra.Ring.Nat
import Mathlib.Data.List.Basic
import Mathlib.Data.Nat.Notation

/-!
Digests of 32 bytes and their lower-case hexadecimal text. The text of a list of
bytes has two digits for each byte, so it determines the bytes.
-/
namespace TunnelGateway.HexDigest

def nibble (n : ℕ) : Char := if n < 10 then Char.ofNat (48 + n) else Char.ofNat (87 + n)

/-- The characters of hexadecimal text. -/
def isHex (c : Char) : Bool := ('0' ≤ c && c ≤ '9') || ('a' ≤ c && c ≤ 'f')

def hexByte (b : UInt8) : List Char := [nibble (b.toNat / 16), nibble (b.toNat % 16)]

def hex (bytes : List UInt8) : List Char := bytes.flatMap hexByte

theorem isHex_nibble : ∀ n < 16, isHex (nibble n) = true := by decide

theorem length_hex (bytes : List UInt8) : (hex bytes).length = 2 * bytes.length := by
  induction bytes with
  | nil => rfl
  | cons b rest ih =>
    rw [hex, List.flatMap_cons, List.length_append]
    change 2 + (hex rest).length = _
    rw [List.length_cons]
    omega

theorem isHex_of_mem_hex {bytes : List UInt8} {c : Char} (h : c ∈ hex bytes) : isHex c = true := by
  obtain ⟨b, -, hc⟩ := List.mem_flatMap.mp h
  have hb := b.toNat_lt
  rcases List.mem_pair.mp hc with rfl | rfl
  · exact isHex_nibble _ (by omega)
  · exact isHex_nibble _ (Nat.mod_lt _ (by decide))

/-- A digest function, of which only the size is known. -/
structure Digest where
  sum : List UInt8 → List UInt8
  length_sum : ∀ data, (sum data).length = 32

/-- A checksum of four bytes, padded to the size of a digest. -/
def Digest.checksum : Digest where
  sum data :=
    let h := data.foldl (fun acc b => (acc * 31 + b.toNat) % 2 ^ 32) 7
    [h / 2 ^ 24, h / 2 ^ 16, h / 2 ^ 8, h].map UInt8.ofNat ++ List.replicate 28 0
  length_sum _ := rfl

end TunnelGateway.HexDigest
