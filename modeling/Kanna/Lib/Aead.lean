import Mathlib.Data.List.Basic

/-!
# Ideal authenticated encryption

Authenticated encryption with associated data, over any keys and nonces. It is ideal in that
`decrypt` is relative to the sealings that were made: a ciphertext opens if it is the one of a
sealing with this key, this nonce and this associated data, and to the plaintext of that
sealing (`decrypt_eq_some_iff`). Nobody makes a ciphertext that opens in any other way.

What a cipher has to provide is the ciphertext of a sealing, longer than the plaintext by the
tag, from which the plaintext can be told by who knows the rest.
-/

namespace Kanna

/-- One use of the cipher. -/
structure Sealing (κ ν : Type) where
  key : κ
  nonce : ν
  aad : List UInt8
  plaintext : List UInt8

/-- A cipher with a tag of so many bytes. -/
structure Aead (κ ν : Type) (tag : ℕ) where
  encrypt : Sealing κ ν → List UInt8
  length_encrypt : ∀ sealing, (encrypt sealing).length = sealing.plaintext.length + tag
  /-- one plaintext for each ciphertext -/
  plaintext_eq : ∀ {key : κ} {nonce : ν} {aad plaintext plaintext' : List UInt8},
    encrypt ⟨key, nonce, aad, plaintext⟩ = encrypt ⟨key, nonce, aad, plaintext'⟩ →
      plaintext = plaintext'

namespace Aead

variable {κ ν : Type} {tag : ℕ} [DecidableEq κ] [DecidableEq ν]

/-- Open a ciphertext, after these sealings. -/
def decrypt (aead : Aead κ ν tag) (log : List (Sealing κ ν)) (key : κ) (nonce : ν)
    (aad ciphertext : List UInt8) : Option (List UInt8) :=
  (log.find? fun sealing => decide (sealing.key = key ∧ sealing.nonce = nonce ∧
    sealing.aad = aad ∧ aead.encrypt sealing = ciphertext)).map Sealing.plaintext

variable {aead : Aead κ ν tag} {log : List (Sealing κ ν)} {key : κ} {nonce : ν}
  {aad ciphertext plaintext : List UInt8}

/-- **What opens was sealed**, with this key, nonce and associated data; and it opens. -/
theorem decrypt_eq_some_iff :
    aead.decrypt log key nonce aad ciphertext = some plaintext ↔
      ⟨key, nonce, aad, plaintext⟩ ∈ log ∧
        aead.encrypt ⟨key, nonce, aad, plaintext⟩ = ciphertext := by
  rw [decrypt, Option.map_eq_some_iff]
  constructor
  · rintro ⟨⟨k, n, a, p⟩, hfind, rfl⟩
    have hmatch := List.find?_some hfind
    obtain ⟨rfl, rfl, rfl, hciphertext⟩ := of_decide_eq_true hmatch
    exact ⟨List.mem_of_find?_eq_some hfind, hciphertext⟩
  · rintro ⟨hmem, hciphertext⟩
    -- some sealing is found, and its plaintext can only be this one
    cases hfind : log.find? fun sealing => decide (sealing.key = key ∧ sealing.nonce = nonce ∧
        sealing.aad = aad ∧ aead.encrypt sealing = ciphertext) with
    | none =>
      refine absurd (List.find?_eq_none.mp hfind _ hmem) (not_not.mpr ?_)
      exact decide_eq_true ⟨rfl, rfl, rfl, hciphertext⟩
    | some sealing =>
      obtain ⟨k, n, a, p⟩ := sealing
      have hmatch := List.find?_some hfind
      obtain ⟨rfl, rfl, rfl, hsame⟩ := of_decide_eq_true hmatch
      exact ⟨_, rfl, aead.plaintext_eq (hsame.trans hciphertext.symm)⟩

end Aead

end Kanna
