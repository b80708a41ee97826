import Mathlib.Data.Fintype.Basic
import PeerConnection.Sdp.PrintedValues

/-!
# Fingerprints in hexadecimal

The documented behaviour of the fingerprint functions satisfies what the printed
lines are proved from: a digest is printed as pairs of capital digits with colons
and comes back from them.
-/

namespace PeerConnection.Sdp

open PeerConnection.Text

/-! ## Digits -/

theorem hexDigit_mem (byte : UInt8) :
    (IsDigit (hexDigit (byte / 16)) ∨
        (65 ≤ hexDigit (byte / 16) ∧ hexDigit (byte / 16) ≤ 70)) ∧
      (IsDigit (hexDigit (byte % 16)) ∨
        (65 ≤ hexDigit (byte % 16) ∧ hexDigit (byte % 16) ≤ 70)) := by
  revert byte
  decide +kernel

/-- The two digits of a byte give its two halves back. -/
theorem hexValue_hexDigit (byte : UInt8) :
    hexValue (hexDigit (byte / 16)) = some (byte / 16) ∧
      hexValue (hexDigit (byte % 16)) = some (byte % 16) ∧
      16 * (byte / 16) + byte % 16 = byte := by
  revert byte
  decide +kernel

/-! ## Digests -/

theorem encodeHex_singleton (byte : UInt8) :
    encodeHex [byte] = [hexDigit (byte / 16), hexDigit (byte % 16)] := rfl

theorem encodeHex_cons_cons (byte next : UInt8) (bytes : Bytes) :
    encodeHex (byte :: next :: bytes) =
      hexDigit (byte / 16) :: hexDigit (byte % 16) :: colon :: encodeHex (next :: bytes) := rfl

theorem encodeHex_ne_nil {digest : Bytes} (hdigest : digest ≠ []) : encodeHex digest ≠ [] := by
  match digest with
  | [] => exact absurd rfl hdigest
  | [byte] => simp [encodeHex_singleton]
  | byte :: next :: bytes => simp [encodeHex_cons_cons]

theorem mem_encodeHex (digest : Bytes) :
    ∀ byte ∈ encodeHex digest, byte = colon ∨ IsDigit byte ∨ (65 ≤ byte ∧ byte ≤ 70) := by
  induction digest with
  | nil => exact List.forall_mem_nil _
  | cons digit digits ih =>
      obtain ⟨hhigh, hlow⟩ := hexDigit_mem digit
      cases digits with
      | nil =>
          simp only [encodeHex_singleton, List.mem_cons, List.not_mem_nil, or_false]
          rintro byte (rfl | rfl)
          · exact Or.inr hhigh
          · exact Or.inr hlow
      | cons next digits =>
          simp only [encodeHex_cons_cons, List.mem_cons]
          rintro byte (rfl | rfl | rfl | hbyte)
          · exact Or.inr hhigh
          · exact Or.inr hlow
          · exact Or.inl rfl
          · exact ih byte hbyte

theorem decodeHex_encodeHex (digest : Bytes) (hdigest : digest ≠ []) :
    decodeHex (encodeHex digest) = some digest := by
  induction digest with
  | nil => exact absurd rfl hdigest
  | cons byte bytes ih =>
      obtain ⟨hhigh, hlow, hbyte⟩ := hexValue_hexDigit byte
      cases bytes with
      | nil => simp [encodeHex_singleton, decodeHex, hhigh, hlow, hbyte]
      | cons next bytes =>
          have hrest := ih (List.cons_ne_nil next bytes)
          simp [encodeHex_cons_cons, decodeHex, hhigh, hlow, hbyte, hrest]

theorem IsShaFingerprint.digest_ne_nil {fp : SslFingerprint} (hfp : IsShaFingerprint fp) :
    fp.digest ≠ [] := by
  intro hnil
  have hlength : (fp.algorithm, 0) ∈ shaDigests := by simpa [IsShaFingerprint, hnil] using hfp
  have hpositive : ∀ entry ∈ shaDigests, entry.2 ≠ 0 := by decide
  exact hpositive _ hlength rfl

theorem IsShaFingerprint.mem_digestAlgorithms {fp : SslFingerprint} (hfp : IsShaFingerprint fp) :
    fp.algorithm ∈ fips180DigestAlgorithms := by
  have hknown : ∀ algorithm ∈ shaDigests.map Prod.fst, algorithm ∈ fips180DigestAlgorithms := by
    decide
  exact hknown _ hfp.algorithm_mem

/-- The documented functions print fingerprints and roles as the proofs need it. -/
theorem printsAttributes_rfc4572Api : PrintsAttributes rfc4572Api where
  hex fp hfp := ⟨encodeHex_ne_nil hfp.digest_ne_nil, mem_encodeHex fp.digest⟩
  readBack fp hfp := by
    have hdecode := decodeHex_encodeHex fp.digest hfp.digest_ne_nil
    simp [rfc4572Api, hfp.mem_digestAlgorithms, hdecode]
  role role := by
    cases role <;> simp [rfc4572Api]

end PeerConnection.Sdp
