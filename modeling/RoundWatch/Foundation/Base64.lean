import RoundWatch.Foundation.Text
import Mathlib.Tactic.IntervalCases

/-!
# Base64

The Base64 codec a JavaScript `Buffer` offers, on code units: `encode` is
`buffer.toString('base64')`, `decode` is `Buffer.from(text, 'base64')`, which
reads up to the padding and drops what is left of an incomplete byte.  Decoding
undoes encoding (`decode_encode`).
-/

namespace Base64

open JsText

/-! ## Groups of six bits -/

/-- The code unit that writes six bits. -/
def symbol (n : ℕ) : UInt16 :=
  if n < 26 then UInt16.ofNat (65 + n)
  else if n < 52 then UInt16.ofNat (71 + n)
  else if n < 62 then UInt16.ofNat (n - 4)
  else if n = 62 then 43
  else 47

/-- The six bits a code unit stands for; a `Buffer` also reads the URL alphabet. -/
def sextet? (u : UInt16) : Option ℕ :=
  if 65 ≤ u.toNat ∧ u.toNat ≤ 90 then some (u.toNat - 65)
  else if 97 ≤ u.toNat ∧ u.toNat ≤ 122 then some (u.toNat - 71)
  else if 48 ≤ u.toNat ∧ u.toNat ≤ 57 then some (u.toNat + 4)
  else if u = 43 ∨ u = 45 then some 62
  else if u = 47 ∨ u = 95 then some 63
  else none

/-- The padding character. -/
def pad : UInt16 := 61

theorem sextet?_symbol {n : ℕ} (h : n < 64) : sextet? (symbol n) = some n := by
  interval_cases n <;> decide

theorem symbol_ne_pad {n : ℕ} (h : n < 64) : symbol n ≠ pad := by
  interval_cases n <;> decide

/-- Three bytes are four groups of six bits; a shorter tail is filled with zeros. -/
def sextetsOfBytes : List UInt8 → List ℕ
  | [] => []
  | [x] => [x.toNat / 4, x.toNat % 4 * 16]
  | [x, y] => [x.toNat / 4, x.toNat % 4 * 16 + y.toNat / 16, y.toNat % 16 * 4]
  | x :: y :: z :: rest =>
      x.toNat / 4 :: (x.toNat % 4 * 16 + y.toNat / 16) :: (y.toNat % 16 * 4 + z.toNat / 64) ::
        z.toNat % 64 :: sextetsOfBytes rest

/-- Four groups of six bits are three bytes; an incomplete byte is dropped. -/
def bytesOfSextets : List ℕ → List UInt8
  | a :: b :: c :: d :: rest =>
      UInt8.ofNat (a * 4 + b / 16) :: UInt8.ofNat (b % 16 * 16 + c / 4) ::
        UInt8.ofNat (c % 4 * 64 + d) :: bytesOfSextets rest
  | [a, b, c] => [UInt8.ofNat (a * 4 + b / 16), UInt8.ofNat (b % 16 * 16 + c / 4)]
  | [a, b] => [UInt8.ofNat (a * 4 + b / 16)]
  | _ => []

theorem uint8_ofNat_eq {x : UInt8} {n : ℕ} (h : n = x.toNat) : UInt8.ofNat n = x := by
  rw [h, UInt8.ofNat_toNat]

theorem bytesOfSextets_sextetsOfBytes (bs : List UInt8) :
    bytesOfSextets (sextetsOfBytes bs) = bs := by
  induction bs using sextetsOfBytes.induct with
  | case1 => rfl
  | case2 x =>
      simp only [sextetsOfBytes, bytesOfSextets]
      rw [uint8_ofNat_eq (x := x) (by omega)]
  | case3 x y =>
      have hx := x.toNat_lt
      have hy := y.toNat_lt
      simp only [sextetsOfBytes, bytesOfSextets]
      rw [uint8_ofNat_eq (x := x) (by omega), uint8_ofNat_eq (x := y) (by omega)]
  | case4 x y z rest ih =>
      have hx := x.toNat_lt
      have hy := y.toNat_lt
      have hz := z.toNat_lt
      simp only [sextetsOfBytes, bytesOfSextets, ih]
      rw [uint8_ofNat_eq (x := x) (by omega), uint8_ofNat_eq (x := y) (by omega),
        uint8_ofNat_eq (x := z) (by omega)]

theorem mem_sextetsOfBytes {bs : List UInt8} {n : ℕ} (h : n ∈ sextetsOfBytes bs) : n < 64 := by
  induction bs using sextetsOfBytes.induct with
  | case1 => simp [sextetsOfBytes] at h
  | case2 x =>
      have hx := x.toNat_lt
      simp only [sextetsOfBytes, List.mem_cons, List.not_mem_nil, or_false] at h
      omega
  | case3 x y =>
      have hx := x.toNat_lt
      have hy := y.toNat_lt
      simp only [sextetsOfBytes, List.mem_cons, List.not_mem_nil, or_false] at h
      omega
  | case4 x y z rest ih =>
      have hx := x.toNat_lt
      have hy := y.toNat_lt
      have hz := z.toNat_lt
      simp only [sextetsOfBytes, List.mem_cons] at h
      rcases h with h | h | h | h | h
      · omega
      · omega
      · omega
      · omega
      · exact ih h

/-! ## The codec -/

/-- How much padding a text of that many bytes carries. -/
def padding (n : ℕ) : JsString := List.replicate ((3 - n % 3) % 3) pad

/-- `buffer.toString('base64')`. -/
def encode (bs : List UInt8) : JsString :=
  (sextetsOfBytes bs).map symbol ++ padding bs.length

/-- `Buffer.from(text, 'base64')`. -/
def decode (text : JsString) : List UInt8 :=
  bytesOfSextets ((text.takeWhile (· ≠ pad)).filterMap sextet?)

/-- Decoding undoes encoding. -/
@[simp] theorem decode_encode (bs : List UInt8) : decode (encode bs) = bs := by
  have hsym : ∀ ns : List ℕ, (∀ n ∈ ns, n < 64) →
      (ns.map symbol).filterMap sextet? = ns := by
    intro ns hns
    rw [List.filterMap_map]
    have : ∀ n ∈ ns, (sextet? ∘ symbol) n = some n := fun n hn => sextet?_symbol (hns n hn)
    rw [List.filterMap_congr this, List.filterMap_some]
  have htake : (encode bs).takeWhile (· ≠ pad) = (sextetsOfBytes bs).map symbol := by
    rw [encode, List.takeWhile_append_of_pos]
    · have hpad : (padding bs.length).takeWhile (· ≠ pad) = [] := by
        rw [padding]
        cases (3 - bs.length % 3) % 3 with
        | zero => rfl
        | succ k => simp [List.replicate_succ]
      rw [hpad, List.append_nil]
    · intro u hu
      obtain ⟨n, hn, rfl⟩ := List.mem_map.1 hu
      simpa using symbol_ne_pad (mem_sextetsOfBytes hn)
  rw [decode, htake, hsym _ fun n hn => mem_sextetsOfBytes hn, bytesOfSextets_sextetsOfBytes]

/-- A character of the standard alphabet. -/
def isSymbol (u : UInt16) : Bool :=
  (65 ≤ u && u ≤ 90) || (97 ≤ u && u ≤ 122) || (48 ≤ u && u ≤ 57) || u == 43 || u == 47

/-- Canonical, padded, non-empty Base64: the text its own bytes encode to. -/
def isCanonical (text : JsString) : Bool :=
  let tail := text.dropWhile isSymbol
  text.length != 0 && text.length % 4 == 0 && tail.length ≤ 2 && tail.all (· == pad) &&
    encode (decode text) == text

end Base64
