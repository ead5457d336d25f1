import RoundWatch.Foundation.Bits
import RoundWatch.Foundation.Text

/-!
# Base32

What text in the alphabet `A`–`Z`, `2`–`7` stands for.  Each symbol carries five bits; the
bits behind the last whole byte are dropped, so one value can have several spellings.  It
has only one whose dropped bits are zero (`decode?_inj`).

`encode` writes bytes without padding.  Its image are the texts of the right length whose
spare bits are zero (`exists_encode_eq_iff`), and `decodeBytes?` undoes it.
-/

namespace Base32

open JsText

/-- The five bits of a symbol. -/
def digit? (u : UInt16) : Option ℕ :=
  if 65 ≤ u.toNat ∧ u.toNat ≤ 90 then some (u.toNat - 65)
  else if 50 ≤ u.toNat ∧ u.toNat ≤ 55 then some (u.toNat - 24)
  else none

/-- The number the symbols write, behind a number that is there already. -/
def value? (acc : ℕ) : JsString → Option ℕ
  | [] => some acc
  | u :: rest =>
      match digit? u with
      | some d => value? (acc * 32 + d) rest
      | none => none

/-- How many bits are behind the last whole byte. -/
def spareBits (s : JsString) : ℕ := 5 * s.length % 8

/-- The bytes of a text, as a big-endian number. -/
def decode? (s : JsString) : Option ℕ := (value? 0 s).map (· / 2 ^ spareBits s)

/-- The spare bits are zero. -/
def Canonical (s : JsString) : Prop := ∀ n, value? 0 s = some n → n % 2 ^ spareBits s = 0

theorem digit?_lt {u : UInt16} {d : ℕ} (h : digit? u = some d) : d < 32 := by
  simp only [digit?] at h
  split_ifs at h <;> simp only [Option.some.injEq] at h <;> omega

theorem digit?_inj {u v : UInt16} {d : ℕ} (hu : digit? u = some d) (hv : digit? v = some d) :
    u = v := by
  apply UInt16.toNat_inj.mp
  simp only [digit?] at hu hv
  split_ifs at hu hv <;> simp only [Option.some.injEq] at hu hv <;> omega

theorem digit?_isSome {u : UInt16} :
    (digit? u).isSome ↔ (65 ≤ u.toNat ∧ u.toNat ≤ 90) ∨ (50 ≤ u.toNat ∧ u.toNat ≤ 55) := by
  simp only [digit?]
  split_ifs <;> simp_all

theorem value?_concat (acc : ℕ) (s : JsString) (u : UInt16) :
    value? acc (s ++ [u]) = (value? acc s).bind fun n => (digit? u).map (n * 32 + ·) := by
  induction s generalizing acc with
  | nil =>
      cases hu : digit? u <;> simp [value?, hu]
  | cons v rest ih =>
      rw [List.cons_append, value?, value?]
      cases digit? v with
      | none => rfl
      | some d => exact ih _

theorem value?_isSome {acc : ℕ} {s : JsString} :
    (value? acc s).isSome ↔ ∀ u ∈ s, (digit? u).isSome := by
  induction s generalizing acc with
  | nil => simp [value?]
  | cons u rest ih =>
      rw [value?]
      cases hu : digit? u with
      | none => simp [hu]
      | some d => simp [hu, ih]

/-- Two texts of one length that write one number are one text. -/
theorem value?_inj {acc acc' n : ℕ} {s t : JsString} (hlength : s.length = t.length)
    (hs : value? acc s = some n) (ht : value? acc' t = some n) : acc = acc' ∧ s = t := by
  induction s generalizing t acc acc' with
  | nil =>
      have hnil : t = [] := List.length_eq_zero_iff.mp hlength.symm
      subst hnil
      exact ⟨Option.some.inj (hs.trans ht.symm), rfl⟩
  | cons u rest ih =>
      cases t with
      | nil => cases hlength
      | cons v rest' =>
          rw [value?] at hs ht
          cases hu : digit? u with
          | none =>
              rw [hu] at hs
              cases hs
          | some d =>
              cases hv : digit? v with
              | none =>
                  rw [hv] at ht
                  cases ht
              | some e =>
                  rw [hu] at hs
                  rw [hv] at ht
                  obtain ⟨hacc, hrest⟩ := ih (Nat.succ.inj hlength) hs ht
                  have hd := digit?_lt hu
                  have he := digit?_lt hv
                  have hde : d = e := by omega
                  subst hde
                  exact ⟨by omega, by rw [digit?_inj hu hv, hrest]⟩

/-- **A value has one canonical spelling of a length.** -/
theorem decode?_inj {s t : JsString} (hlength : s.length = t.length) (hs : Canonical s)
    (ht : Canonical t) {n : ℕ} (hsn : decode? s = some n) (htn : decode? t = some n) : s = t := by
  obtain ⟨m, hm, rfl⟩ := Option.map_eq_some_iff.mp hsn
  obtain ⟨m', hm', heq⟩ := Option.map_eq_some_iff.mp htn
  have hspare : spareBits t = spareBits s := by rw [spareBits, spareBits, hlength]
  have hzero := hs m hm
  have hzero' := ht m' hm'
  rw [hspare] at heq hzero'
  have hmm : m = m' := by
    rw [← Nat.div_add_mod m (2 ^ spareBits s), ← Nat.div_add_mod m' (2 ^ spareBits s), heq, hzero,
      hzero']
  rw [← hmm] at hm'
  exact (value?_inj hlength hm hm').2

/-! ## Bytes -/

/-- The symbol for five bits. -/
def symbol (d : ℕ) : UInt16 := UInt16.ofNat (if d < 26 then d + 65 else d + 24)

/-- How many symbols some bytes take. -/
def symbolCount (n : ℕ) : ℕ := (8 * n + 4) / 5

def byteBits (b : UInt8) : List Bool := Bits.ofNat 8 b.toNat

/-- The bits of some bytes, with zeros behind them that fill the last symbol. -/
def paddedBits (bytes : List UInt8) : List Bool :=
  bytes.flatMap byteBits ++ List.replicate (5 * symbolCount bytes.length - 8 * bytes.length) false

/-- The encoding without padding: one symbol for every five bits. -/
def encode (bytes : List UInt8) : JsString :=
  (Bits.cut 5 (symbolCount bytes.length) (paddedBits bytes)).map fun g => symbol (Bits.toNat g)

/-- The bits of all symbols. -/
def bits? (s : JsString) : Option (List Bool) :=
  (s.mapM digit?).map fun digits => digits.flatMap (Bits.ofNat 5)

/-- The first bytes that some bits hold. -/
def bytesOf (n : ℕ) (bits : List Bool) : List UInt8 :=
  (Bits.cut 8 n bits).map fun g => UInt8.ofNat (Bits.toNat g)

/-- The whole bytes of a text; what is behind them is dropped. -/
def decodeBytes? (s : JsString) : Option (List UInt8) :=
  (bits? s).map fun bits => bytesOf (bits.length / 8) bits

theorem digit?_symbol {d : ℕ} (h : d < 32) : digit? (symbol d) = some d := by
  have hsmall : (if d < 26 then d + 65 else d + 24) < 65536 := by split_ifs <;> omega
  have htoNat : (symbol d).toNat = if d < 26 then d + 65 else d + 24 := by
    rw [symbol, UInt16.toNat_ofNat', Nat.mod_eq_of_lt hsmall]
  rw [digit?, htoNat]
  by_cases hletter : d < 26
  · rw [if_pos hletter, if_pos (by omega), Nat.add_sub_cancel]
  · rw [if_neg hletter, if_neg (by omega), if_pos (by omega), Nat.add_sub_cancel]

theorem symbol_digit? {u : UInt16} {d : ℕ} (h : digit? u = some d) : symbol d = u :=
  digit?_inj (digit?_symbol (digit?_lt h)) h

theorem mapM_digit?_eq_some {s : JsString} {digits : List ℕ} (h : s.mapM digit? = some digits) :
    digits.map symbol = s ∧ ∀ d ∈ digits, d < 32 := by
  induction s generalizing digits with
  | nil =>
    cases h
    simp
  | cons u rest ih =>
    rw [List.mapM_cons] at h
    obtain ⟨d, hd, h⟩ := Option.bind_eq_some_iff.1 h
    obtain ⟨ds, hds, h⟩ := Option.bind_eq_some_iff.1 h
    cases h
    obtain ⟨hmap, hlt⟩ := ih hds
    rw [List.map_cons, hmap, symbol_digit? hd]
    exact ⟨rfl, List.forall_mem_cons.2 ⟨digit?_lt hd, hlt⟩⟩

theorem mapM_digit?_symbols {digits : List ℕ} (h : ∀ d ∈ digits, d < 32) :
    (digits.map symbol).mapM digit? = some digits := by
  induction digits with
  | nil => rfl
  | cons d ds ih =>
    obtain ⟨hd, hds⟩ := List.forall_mem_cons.1 h
    rw [List.map_cons, List.mapM_cons, digit?_symbol hd, ih hds]
    rfl

theorem exists_mapM_digit? {s : JsString} (h : ∀ u ∈ s, (digit? u).isSome) :
    ∃ digits, s.mapM digit? = some digits := by
  induction s with
  | nil => exact ⟨[], rfl⟩
  | cons u rest ih =>
    obtain ⟨hu, hrest⟩ := List.forall_mem_cons.1 h
    obtain ⟨d, hd⟩ := Option.isSome_iff_exists.1 hu
    obtain ⟨ds, hds⟩ := ih hrest
    exact ⟨d :: ds, by rw [List.mapM_cons, hd, hds]; rfl⟩

theorem length_flatMap_byteBits (bytes : List UInt8) :
    (bytes.flatMap byteBits).length = 8 * bytes.length := by
  induction bytes with
  | nil => rfl
  | cons b bytes ih =>
    rw [List.flatMap_cons, List.length_append, ih, byteBits, Bits.length_ofNat, List.length_cons]
    ring

theorem length_paddedBits (bytes : List UInt8) :
    (paddedBits bytes).length = 5 * symbolCount bytes.length := by
  rw [paddedBits, List.length_append, length_flatMap_byteBits, List.length_replicate, symbolCount]
  omega

theorem length_encode (bytes : List UInt8) : (encode bytes).length = symbolCount bytes.length := by
  rw [encode, List.length_map, Bits.length_cut]

/-- What is written for five bits is read as these bits. -/
theorem bits?_symbols {groups : List (List Bool)} (h : ∀ g ∈ groups, g.length = 5) :
    bits? (groups.map fun g => symbol (Bits.toNat g)) = some groups.flatten := by
  have hlt : ∀ d ∈ groups.map Bits.toNat, d < 32 := by
    intro d hd
    obtain ⟨g, hg, rfl⟩ := List.mem_map.1 hd
    have hbound := Bits.toNat_lt g
    rwa [h g hg] at hbound
  have hbits : (groups.map Bits.toNat).flatMap (Bits.ofNat 5) = groups.flatten := by
    rw [List.flatMap_map, List.flatMap_def]
    refine congrArg List.flatten ((List.map_congr_left fun g hg => ?_).trans (List.map_id _))
    have hback := Bits.ofNat_toNat g
    rwa [h g hg] at hback
  have hmap : groups.map (fun g => symbol (Bits.toNat g)) = (groups.map Bits.toNat).map symbol := by
    rw [List.map_map]
    rfl
  rw [bits?, hmap, mapM_digit?_symbols hlt, Option.map_some, hbits]

theorem bits?_encode (bytes : List UInt8) : bits? (encode bytes) = some (paddedBits bytes) := by
  have hlength := length_paddedBits bytes
  have hgroups : ∀ g ∈ Bits.cut 5 (symbolCount bytes.length) (paddedBits bytes), g.length = 5 :=
    fun g hg => Bits.length_of_mem_cut hlength.ge hg
  rw [encode, bits?_symbols hgroups, Bits.flatten_cut, ← hlength, List.take_length]

/-- **Decoding undoes encoding.** -/
theorem decodeBytes?_encode (bytes : List UInt8) : decodeBytes? (encode bytes) = some bytes := by
  have hcount : (paddedBits bytes).length / 8 = (bytes.map byteBits).length := by
    rw [length_paddedBits, List.length_map, symbolCount]
    omega
  have height : ∀ g ∈ bytes.map byteBits, g.length = 8 := by
    intro g hg
    obtain ⟨b, -, rfl⟩ := List.mem_map.1 hg
    exact Bits.length_ofNat 8 _
  have hbyte (b : UInt8) : UInt8.ofNat (Bits.toNat (byteBits b)) = b := by
    rw [byteBits, Bits.toNat_ofNat, Nat.mod_eq_of_lt b.toNat_lt, UInt8.ofNat_toNat]
  rw [decodeBytes?, bits?_encode, Option.map_some, hcount, bytesOf, paddedBits, List.flatMap_def,
    Bits.cut_flatten_append height, List.map_map]
  simp [Function.comp_def, hbyte]

/-- Bits whose spare ones are zero are those of the bytes they hold. -/
theorem paddedBits_bytesOf {n : ℕ} {bits : List Bool} (hlength : bits.length = 5 * symbolCount n)
    (hspare : ∀ b ∈ bits.drop (8 * n), b = false) : paddedBits (bytesOf n bits) = bits := by
  have hfits : 8 * n ≤ bits.length := by
    rw [hlength, symbolCount]
    omega
  have hbytes : (bytesOf n bits).flatMap byteBits = bits.take (8 * n) := by
    rw [bytesOf, List.flatMap_map, List.flatMap_def, ← Bits.flatten_cut]
    refine congrArg List.flatten ((List.map_congr_left fun g hg => ?_).trans (List.map_id _))
    have height := Bits.length_of_mem_cut hfits hg
    have hsmall := Bits.toNat_lt g
    have hback := Bits.ofNat_toNat g
    rw [height] at hsmall hback
    rw [byteBits, UInt8.toNat_ofNat', Nat.mod_eq_of_lt hsmall]
    exact hback
  have hzeros : bits.drop (8 * n) = List.replicate (5 * symbolCount n - 8 * n) false :=
    List.eq_replicate_iff.2 ⟨by rw [List.length_drop, hlength], hspare⟩
  have hcount : (bytesOf n bits).length = n := by rw [bytesOf, List.length_map, Bits.length_cut]
  rw [paddedBits, hbytes, hcount, ← hzeros, List.take_append_drop]

/-- Bytes whose bits are those of some digits are written with these. -/
theorem encode_of_paddedBits {bytes : List UInt8} {digits : List ℕ}
    (h : paddedBits bytes = digits.flatMap (Bits.ofNat 5))
    (hlength : digits.length = symbolCount bytes.length) (hlt : ∀ d ∈ digits, d < 32) :
    encode bytes = digits.map symbol := by
  have hfive : ∀ g ∈ digits.map (Bits.ofNat 5), g.length = 5 := by
    intro g hg
    obtain ⟨d, -, rfl⟩ := List.mem_map.1 hg
    exact Bits.length_ofNat 5 d
  have hcut := Bits.cut_flatten_append hfive []
  rw [List.length_map, hlength, List.append_nil, ← List.flatMap_def, ← h] at hcut
  rw [encode, hcut, List.map_map]
  refine List.map_congr_left fun d hd => ?_
  have hsmall : d < 2 ^ 5 := hlt d hd
  rw [Function.comp_apply, Bits.toNat_ofNat, Nat.mod_eq_of_lt hsmall]

/-- **The texts that some bytes are written as.** -/
theorem exists_encode_eq_iff {n : ℕ} {s : JsString} :
    (∃ bytes : List UInt8, bytes.length = n ∧ encode bytes = s) ↔
      s.length = symbolCount n ∧
        ∃ bits, bits? s = some bits ∧ ∀ b ∈ bits.drop (8 * n), b = false := by
  constructor
  · rintro ⟨bytes, rfl, rfl⟩
    refine ⟨length_encode bytes, _, bits?_encode bytes, ?_⟩
    intro b hb
    rw [paddedBits, ← length_flatMap_byteBits, List.drop_left] at hb
    exact (List.mem_replicate.1 hb).2
  · rintro ⟨hlength, bits, hbits, hspare⟩
    obtain ⟨digits, hdigits, rfl⟩ := Option.map_eq_some_iff.1 hbits
    obtain ⟨rfl, hlt⟩ := mapM_digit?_eq_some hdigits
    rw [List.length_map] at hlength
    have hbitsLength : (digits.flatMap (Bits.ofNat 5)).length = 5 * symbolCount n := by
      simp [List.length_flatMap, hlength, Nat.mul_comm]
    have hcount : (bytesOf n (digits.flatMap (Bits.ofNat 5))).length = n := by
      rw [bytesOf, List.length_map, Bits.length_cut]
    have hpadded := paddedBits_bytesOf hbitsLength hspare
    exact ⟨_, hcount, encode_of_paddedBits hpadded (by rw [hcount, hlength]) hlt⟩

end Base32
