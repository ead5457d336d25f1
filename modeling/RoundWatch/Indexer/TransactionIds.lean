import RoundWatch.Foundation.Base32
import RoundWatch.Indexer.Parse
import Mathlib.Logic.Equiv.Basic

/-!
# Transaction ids

The parser of ids decides without a decoder, by the length, the alphabet and the last symbol.

* `TransactionDigest` — what an id stands for;
* `isCanonicalTransactionId_iff` — the accepted texts are the encodings of digests;
* `idOfDigest` — the two are in bijection, so ids are equal when the transactions are.
-/

namespace RoundWatch

open JsText

/-- The hash of a transaction: 32 bytes. -/
abbrev TransactionDigest := {bytes : List UInt8 // bytes.length = 32}

/-- The parser accepts the text. -/
def AcceptsId (s : JsString) : Prop :=
  ∀ label, parseCanonicalAlgorandTransactionId (some (.str s)) label = .ok s

theorem acceptsId_iff {s : JsString} : AcceptsId s ↔ isCanonicalTransactionId s = true := by
  constructor
  · intro h
    exact (parseCanonicalAlgorandTransactionId_eq_ok (h "transaction ID")).2
  · intro h label
    rw [parseCanonicalAlgorandTransactionId, if_pos h]

/-- The last symbol has one bit of the digest, and four spare ones. -/
theorem spare_zero_iff {front : List ℕ} {d : ℕ} (hfront : front.length = 51) (hd : d < 32) :
    (∀ b ∈ ((front ++ [d]).flatMap (Bits.ofNat 5)).drop 256, b = false) ↔
      Base32.symbol d = 65 ∨ Base32.symbol d = 81 := by
  have hlength : (front.flatMap (Bits.ofNat 5)).length = 255 := by
    simp [List.length_flatMap, hfront]
  have hdrop : ((front ++ [d]).flatMap (Bits.ofNat 5)).drop 256 = Bits.ofNat 4 d := by
    rw [List.flatMap_append, List.drop_append, hlength, List.drop_eq_nil_of_le (by omega),
      List.nil_append, List.flatMap_singleton]
    rfl
  have hsymbols : Base32.digit? 65 = some 0 ∧ Base32.digit? 81 = some 16 := by decide
  have hsymbol (u : UInt16) (e : ℕ) (hu : Base32.digit? u = some e) :
      Base32.symbol d = u ↔ d = e := by
    constructor
    · intro heq
      have hback := Base32.digit?_symbol hd
      rw [heq, hu] at hback
      exact (Option.some.inj hback).symm
    · rintro rfl
      exact Base32.symbol_digit? hu
  rw [hdrop, ← Bits.toNat_eq_zero_iff, Bits.toNat_ofNat, hsymbol 65 0 hsymbols.1,
    hsymbol 81 16 hsymbols.2]
  omega

theorem isDigit_iff (u : UInt16) :
    ((65 ≤ u && u ≤ 90) || (50 ≤ u && u ≤ 55)) = true ↔ (Base32.digit? u).isSome = true := by
  rw [Base32.digit?_isSome]
  simp [UInt16.le_iff_toNat_le]

/-- **The accepted texts are the encodings of digests.** -/
theorem isCanonicalTransactionId_iff {s : JsString} :
    isCanonicalTransactionId s = true ↔
      ∃ bytes : List UInt8, bytes.length = 32 ∧ Base32.encode bytes = s := by
  have hcount : Base32.symbolCount 32 = 52 := rfl
  have hshape {digits : List ℕ} (h : digits.length = 52) :
      ∃ front d, digits = front ++ [d] ∧ front.length = 51 := by
    obtain rfl | ⟨front, d, rfl⟩ := List.eq_nil_or_concat digits
    · cases h
    · exact ⟨front, d, List.concat_eq_append, by simpa using h⟩
  rw [Base32.exists_encode_eq_iff, hcount]
  simp only [isCanonicalTransactionId, Bool.and_eq_true, beq_iff_eq, List.all_eq_true, isDigit_iff]
  constructor
  · rintro ⟨⟨hlength, hdigits⟩, hlast⟩
    obtain ⟨digits, hread⟩ := Base32.exists_mapM_digit? hdigits
    obtain ⟨rfl, hlt⟩ := Base32.mapM_digit?_eq_some hread
    rw [List.length_map] at hlength
    refine ⟨by rw [List.length_map, hlength], _, by rw [Base32.bits?, hread]; rfl, ?_⟩
    obtain ⟨front, d, rfl, hfront⟩ := hshape hlength
    have hd := hlt d (by simp)
    refine (spare_zero_iff hfront hd).2 ?_
    simpa using hlast
  · rintro ⟨hlength, bits, hbits, hspare⟩
    obtain ⟨digits, hread, rfl⟩ := Option.map_eq_some_iff.1 hbits
    obtain ⟨rfl, hlt⟩ := Base32.mapM_digit?_eq_some hread
    have hcounted := hlength
    rw [List.length_map] at hcounted
    refine ⟨⟨hlength, ?_⟩, ?_⟩
    · intro u hu
      obtain ⟨d, hd, rfl⟩ := List.mem_map.1 hu
      rw [Base32.digit?_symbol (hlt d hd)]
      rfl
    · obtain ⟨front, d, rfl, hfront⟩ := hshape hcounted
      have hlast := (spare_zero_iff hfront (hlt d (by simp))).1 hspare
      simpa using hlast

/-! ## The bijection -/

/-- The id of a digest. -/
def idOfDigest (digest : TransactionDigest) : {s : JsString // AcceptsId s} :=
  ⟨Base32.encode digest.1,
    acceptsId_iff.2 (isCanonicalTransactionId_iff.2 ⟨digest.1, digest.2, rfl⟩)⟩

/-- **Accepted ids are digests.**  A text is accepted when it encodes 32 bytes; decoding and
encoding undo each other, and equal ids are ids of equal digests. -/
theorem transaction_ids_canonical :
    (∀ s label id, parseCanonicalAlgorandTransactionId (some (.str s)) label = .ok id ↔
        id = s ∧ ∃ bytes : List UInt8, bytes.length = 32 ∧ Base32.encode bytes = s) ∧
      Function.Bijective idOfDigest ∧
      (∀ digest : TransactionDigest, Base32.decodeBytes? (idOfDigest digest).1 = some digest.1) ∧
      (∀ s, AcceptsId s → ∃ digest : TransactionDigest, Base32.decodeBytes? s = some digest.1 ∧
        (idOfDigest digest).1 = s) ∧
      ∀ s t, AcceptsId s → AcceptsId t →
        (s = t ↔ Base32.decodeBytes? s = Base32.decodeBytes? t) := by
  have himage : ∀ s, AcceptsId s ↔
      ∃ bytes : List UInt8, bytes.length = 32 ∧ Base32.encode bytes = s := by
    intro s
    rw [acceptsId_iff, isCanonicalTransactionId_iff]
  have hdecode (digest : TransactionDigest) :
      Base32.decodeBytes? (idOfDigest digest).1 = some digest.1 :=
    Base32.decodeBytes?_encode digest.1
  have hencode : ∀ s, AcceptsId s → ∃ digest : TransactionDigest,
      Base32.decodeBytes? s = some digest.1 ∧ (idOfDigest digest).1 = s := by
    intro s hs
    obtain ⟨bytes, hlength, rfl⟩ := (himage s).1 hs
    exact ⟨⟨bytes, hlength⟩, Base32.decodeBytes?_encode bytes, rfl⟩
  refine ⟨?_, ⟨?_, ?_⟩, hdecode, hencode, ?_⟩
  · intro s label id
    rw [← isCanonicalTransactionId_iff]
    constructor
    · intro h
      obtain ⟨hvalue, hcanonical⟩ := parseCanonicalAlgorandTransactionId_eq_ok h
      cases hvalue
      exact ⟨rfl, hcanonical⟩
    · rintro ⟨rfl, hcanonical⟩
      exact acceptsId_iff.2 hcanonical label
  · intro digest digest' heq
    have hsame := hdecode digest
    rw [heq, hdecode digest'] at hsame
    exact Subtype.ext (Option.some.inj hsame).symm
  · rintro ⟨s, hs⟩
    obtain ⟨digest, -, hdigest⟩ := hencode s hs
    exact ⟨digest, Subtype.ext hdigest⟩
  · intro s t hs ht
    constructor
    · rintro rfl
      rfl
    · intro hsame
      obtain ⟨digest, hread, rfl⟩ := hencode s hs
      obtain ⟨digest', hread', rfl⟩ := hencode t ht
      rw [hread, hread'] at hsame
      rw [Subtype.ext (Option.some.inj hsame)]

end RoundWatch
