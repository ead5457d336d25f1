import RoundWatch.Foundation.Text

/-!
# Decoding UTF-8 fatally

`new TextDecoder('utf-8', { fatal: true })`: the decoder takes one octet at a time,
keeps what is left of a character between octets, and refuses an octet that cannot
continue it.  `decode_eq_some_iff` says that it accepts exactly the encodings of
well-formed strings, each as the string it encodes, so overlong forms, encoded
surrogates and cut characters are all refused.

* `Decoder`, `feed` — the machine, fed any number of octets at a time;
* `decode` — a whole text;
* `stripMark`, `decodeText` — the byte order mark that `decode()` drops.
-/

namespace Utf8

open JsText

/-! ## The machine -/

/-- Between two octets: how many more the character needs, the range of the next
one, and the part of the code point that has been read. -/
structure Decoder where
  needed : ℕ
  lower : ℕ
  upper : ℕ
  point : ℕ

/-- Between two characters. -/
def between : Decoder := ⟨0, 0x80, 0xBF, 0⟩

/-- The code units of a code point. -/
def units (p : ℕ) : JsString :=
  if p < 0x10000 then [UInt16.ofNat p]
  else [UInt16.ofNat (0xD800 + (p - 0x10000) / 1024), UInt16.ofNat (0xDC00 + (p - 0x10000) % 1024)]

/-- The first octet of a character. -/
def lead (b : ℕ) : Option (Decoder × JsString) :=
  if b < 0x80 then some (between, [UInt16.ofNat b])
  else if 0xC2 ≤ b ∧ b ≤ 0xDF then some (⟨1, 0x80, 0xBF, b - 0xC0⟩, [])
  else if 0xE0 ≤ b ∧ b ≤ 0xEF then
    some (⟨2, if b = 0xE0 then 0xA0 else 0x80, if b = 0xED then 0x9F else 0xBF, b - 0xE0⟩, [])
  else if 0xF0 ≤ b ∧ b ≤ 0xF4 then
    some (⟨3, if b = 0xF0 then 0x90 else 0x80, if b = 0xF4 then 0x8F else 0xBF, b - 0xF0⟩, [])
  else none

/-- One octet: the next state and the code units it completes. -/
def octet (d : Decoder) (b : ℕ) : Option (Decoder × JsString) :=
  if d.needed = 0 then lead b
  else if d.lower ≤ b ∧ b ≤ d.upper then
    if d.needed = 1 then some (between, units (d.point * 64 + (b - 0x80)))
    else some (⟨d.needed - 1, 0x80, 0xBF, d.point * 64 + (b - 0x80)⟩, [])
  else none

def feed : Decoder → List UInt8 → Option (Decoder × JsString)
  | d, [] => some (d, [])
  | d, b :: rest =>
      (octet d b.toNat).bind fun p => (feed p.1 rest).map fun q => (q.1, p.2 ++ q.2)

/-- A text that ends between two characters. -/
def decode (bytes : List UInt8) : Option JsString :=
  (feed between bytes).bind fun q => if q.1.needed = 0 then some q.2 else none

/-- A byte order mark at the beginning is not part of the text. -/
def stripMark : JsString → JsString
  | [] => []
  | u :: rest => if u = 0xFEFF then rest else u :: rest

theorem stripMark_of_ne {s : JsString} (h : s.head? ≠ some 0xFEFF) : stripMark s = s := by
  cases s with
  | nil => rfl
  | cons u rest => exact if_neg fun hu => h (by rw [hu]; rfl)

/-- `decode()` of a fatal decoder. -/
def decodeText (bytes : List UInt8) : Option JsString := (decode bytes).map stripMark

/-! ## Octets in pieces -/

theorem feed_append (d : Decoder) (xs ys : List UInt8) :
    feed d (xs ++ ys) =
      (feed d xs).bind fun p => (feed p.1 ys).map fun q => (q.1, p.2 ++ q.2) := by
  induction xs generalizing d with
  | nil => simp [feed]
  | cons b xs ih =>
      simp only [List.cons_append, feed]
      cases octet d b.toNat with
      | none => rfl
      | some p =>
          simp only [Option.bind_some, ih]
          cases feed p.1 xs with
          | none => rfl
          | some q =>
              simp only [Option.bind_some, Option.map_some]
              cases feed q.1 ys with
              | none => rfl
              | some r => simp

/-- The machine goes on after a whole character. -/
theorem feed_of_between {xs ys : List UInt8} {s : JsString}
    (h : feed between xs = some (between, s)) :
    feed between (xs ++ ys) = (feed between ys).map fun q => (q.1, s ++ q.2) := by
  rw [feed_append, h]
  rfl

/-! ## One octet -/

theorem feed_cons {d e : Decoder} {b : UInt8} {s : JsString} (h : octet d b.toNat = some (e, s))
    (rest : List UInt8) : feed d (b :: rest) = (feed e rest).map fun q => (q.1, s ++ q.2) := by
  rw [feed, h]
  rfl

theorem octet_between (b : ℕ) : octet between b = lead b := rfl

theorem octet_last {lower upper p b : ℕ} (h : lower ≤ b ∧ b ≤ upper) :
    octet ⟨1, lower, upper, p⟩ b = some (between, units (p * 64 + (b - 0x80))) := by
  simp [octet, h]

theorem octet_more {n lower upper p b : ℕ} (h : lower ≤ b ∧ b ≤ upper) :
    octet ⟨n + 2, lower, upper, p⟩ b = some (⟨n + 1, 0x80, 0xBF, p * 64 + (b - 0x80)⟩, []) := by
  simp [octet, h]

theorem lead_one {b : ℕ} (h : b < 0x80) : lead b = some (between, [UInt16.ofNat b]) :=
  if_pos h

theorem lead_two {b : ℕ} (h : 0xC2 ≤ b ∧ b ≤ 0xDF) :
    lead b = some (⟨1, 0x80, 0xBF, b - 0xC0⟩, []) := by
  rw [lead, if_neg (by omega), if_pos h]

theorem lead_three {b : ℕ} (h : 0xE0 ≤ b ∧ b ≤ 0xEF) :
    lead b = some (⟨2, if b = 0xE0 then 0xA0 else 0x80, if b = 0xED then 0x9F else 0xBF,
      b - 0xE0⟩, []) := by
  rw [lead, if_neg (by omega), if_neg (by omega), if_pos h]

theorem lead_four {b : ℕ} (h : 0xF0 ≤ b ∧ b ≤ 0xF4) :
    lead b = some (⟨3, if b = 0xF0 then 0x90 else 0x80, if b = 0xF4 then 0x8F else 0xBF,
      b - 0xF0⟩, []) := by
  rw [lead, if_neg (by omega), if_neg (by omega), if_neg (by omega), if_pos h]

/-! ## What is encoded is read back -/

theorem toNat_ofNat {n : ℕ} (h : n < 256) : (UInt8.ofNat n).toNat = n := by
  rw [UInt8.toNat_ofNat']
  omega

/-- A code unit outside the surrogates, as a number. -/
theorem alone_not_surrogate (u : UInt16) :
    (alone u).toNat < 0xD800 ∨ 0xE000 ≤ (alone u).toNat := by
  have hhigh := isHigh_alone u
  have hlow := isLow_alone u
  simp only [isHigh, isLow, Bool.and_eq_false_iff, decide_eq_false_iff_not,
    UInt16.le_iff_toNat_le] at hhigh hlow
  have h1 : (0xD800 : UInt16).toNat = 0xD800 := rfl
  have h2 : (0xDBFF : UInt16).toNat = 0xDBFF := rfl
  have h3 : (0xDC00 : UInt16).toNat = 0xDC00 := rfl
  have h4 : (0xDFFF : UInt16).toNat = 0xDFFF := rfl
  omega

/-- A code unit that stands alone is read back from its one, two or three octets. -/
theorem feed_unitBytes (u : UInt16) : feed between (unitBytes u) = some (between, [alone u]) := by
  have hlt := (alone u).toNat_lt
  have hnot := alone_not_surrogate u
  have hunits : units (alone u).toNat = [alone u] := by
    rw [units, if_pos (by omega), UInt16.ofNat_toNat]
  unfold unitBytes
  dsimp only
  split
  · rename_i h
    rw [feed_cons (e := between) (s := [alone u])]
    · rfl
    · rw [toNat_ofNat (by omega), octet_between, lead_one h, UInt16.ofNat_toNat]
  · split
    · rename_i h h'
      rw [feed_cons (by rw [toNat_ofNat (by omega), octet_between, lead_two (by omega)]),
        feed_cons (by rw [toNat_ofNat (by omega), octet_last (by omega)])]
      rw [show (0xC0 + (alone u).toNat / 64 - 0xC0) * 64 + (0x80 + (alone u).toNat % 64 - 0x80) =
        (alone u).toNat by omega, hunits]
      rfl
    · rename_i h h'
      rw [feed_cons (by rw [toNat_ofNat (by omega), octet_between, lead_three (by omega)]),
        feed_cons (by
          rw [toNat_ofNat (by omega), octet_more (by constructor <;> split <;> omega)]),
        feed_cons (by rw [toNat_ofNat (by omega), octet_last (by omega)])]
      rw [show ((0xE0 + (alone u).toNat / 4096 - 0xE0) * 64 +
        (0x80 + (alone u).toNat / 64 % 64 - 0x80)) * 64 + (0x80 + (alone u).toNat % 64 - 0x80) =
          (alone u).toNat by omega, hunits]
      rfl

theorem isHigh_iff {u : UInt16} : isHigh u = true ↔ 0xD800 ≤ u.toNat ∧ u.toNat ≤ 0xDBFF := by
  simp only [isHigh, Bool.and_eq_true, decide_eq_true_eq, UInt16.le_iff_toNat_le]
  rfl

theorem isLow_iff {u : UInt16} : isLow u = true ↔ 0xDC00 ≤ u.toNat ∧ u.toNat ≤ 0xDFFF := by
  simp only [isLow, Bool.and_eq_true, decide_eq_true_eq, UInt16.le_iff_toNat_le]
  rfl

/-- A surrogate pair is read back from its four octets. -/
theorem feed_pairBytes {u v : UInt16} (hu : isHigh u = true) (hv : isLow v = true) :
    feed between (pairBytes u v) = some (between, [u, v]) := by
  rw [isHigh_iff] at hu
  rw [isLow_iff] at hv
  obtain ⟨n, hn⟩ : ∃ n, n = 0x10000 + (u.toNat - 0xD800) * 1024 + (v.toNat - 0xDC00) := ⟨_, rfl⟩
  have hunits : units n = [u, v] := by
    rw [units, if_neg (by omega), show 0xD800 + (n - 0x10000) / 1024 = u.toNat by omega,
      show 0xDC00 + (n - 0x10000) % 1024 = v.toNat by omega, UInt16.ofNat_toNat,
      UInt16.ofNat_toNat]
  unfold pairBytes
  dsimp only
  rw [← hn]
  rw [feed_cons (by rw [toNat_ofNat (by omega), octet_between, lead_four (by omega)]),
    feed_cons (by rw [toNat_ofNat (by omega), octet_more (by constructor <;> split <;> omega)]),
    feed_cons (by rw [toNat_ofNat (by omega), octet_more (by omega)]),
    feed_cons (by rw [toNat_ofNat (by omega), octet_last (by omega)])]
  rw [show (((0xF0 + n / 262144 - 0xF0) * 64 + (0x80 + n / 4096 % 64 - 0x80)) * 64 +
    (0x80 + n / 64 % 64 - 0x80)) * 64 + (0x80 + n % 64 - 0x80) = n by omega, hunits]
  rfl

theorem feed_utf8Bytes (s : JsString) :
    feed between (utf8Bytes s) = some (between, toWellFormed s) := by
  induction s using toWellFormed.induct with
  | case1 => rfl
  | case2 u => exact feed_unitBytes u
  | case3 u v rest h ih =>
      have hpair : isHigh u = true ∧ isLow v = true := by simpa using h
      simp only [utf8Bytes, toWellFormed, h, if_true]
      rw [feed_of_between (feed_pairBytes hpair.1 hpair.2), ih]
      rfl
  | case4 u v rest h ih =>
      simp only [utf8Bytes, toWellFormed, h, if_false, Bool.false_eq_true]
      rw [feed_of_between (feed_unitBytes u), ih]
      rfl

/-- What a string becomes on its way through UTF-8. -/
theorem decode_utf8Bytes (s : JsString) : decode (utf8Bytes s) = some (toWellFormed s) := by
  rw [decode, feed_utf8Bytes]
  rfl

/-! ## What is read was encoded -/

/-- The machine takes the octets and ends between two characters. -/
def Accepts (d : Decoder) (bytes : List UInt8) (s : JsString) : Prop :=
  ∃ e, e.needed = 0 ∧ feed d bytes = some (e, s)

theorem decode_eq_some {bytes : List UInt8} {s : JsString} (h : decode bytes = some s) :
    Accepts between bytes s := by
  unfold decode at h
  cases hfeed : feed between bytes with
  | none => simp [hfeed] at h
  | some q =>
      rw [hfeed, Option.bind_some] at h
      split at h
      · rename_i hneeded
        refine ⟨q.1, hneeded, ?_⟩
        rw [← Option.some.inj h]
        exact hfeed
      · cases h

/-- The first octet and what it leads to. -/
theorem Accepts.uncons {d : Decoder} {b : UInt8} {rest : List UInt8} {s : JsString}
    (h : Accepts d (b :: rest) s) :
    ∃ e out s', octet d b.toNat = some (e, out) ∧ s = out ++ s' ∧ Accepts e rest s' := by
  obtain ⟨e, hneeded, hfeed⟩ := h
  rw [feed] at hfeed
  cases hoctet : octet d b.toNat with
  | none => simp [hoctet] at hfeed
  | some p =>
      rw [hoctet, Option.bind_some] at hfeed
      cases hrest : feed p.1 rest with
      | none => simp [hrest] at hfeed
      | some q =>
          rw [hrest, Option.map_some, Option.some.injEq, Prod.mk.injEq] at hfeed
          exact ⟨p.1, p.2, q.2, rfl, hfeed.2.symm, q.1, hfeed.1 ▸ hneeded, hrest⟩

/-- A character that is not complete has an octet to come, and in its range. -/
theorem Accepts.tail {n lower upper p : ℕ} {bytes : List UInt8} {s : JsString}
    (h : Accepts ⟨n + 1, lower, upper, p⟩ bytes s) :
    ∃ c rest, bytes = c :: rest ∧ lower ≤ c.toNat ∧ c.toNat ≤ upper ∧
      ((n = 0 ∧ ∃ s', s = units (p * 64 + (c.toNat - 0x80)) ++ s' ∧ Accepts between rest s') ∨
        (∃ m, n = m + 1 ∧
          Accepts ⟨m + 1, 0x80, 0xBF, p * 64 + (c.toNat - 0x80)⟩ rest s)) := by
  cases bytes with
  | nil =>
      obtain ⟨e, hneeded, hfeed⟩ := h
      rw [feed, Option.some.injEq, Prod.mk.injEq] at hfeed
      rw [← hfeed.1] at hneeded
      exact absurd hneeded (Nat.succ_ne_zero n)
  | cons c rest =>
      obtain ⟨e, out, s', hoctet, hs, hrest⟩ := h.uncons
      by_cases hrange : lower ≤ c.toNat ∧ c.toNat ≤ upper
      · refine ⟨c, rest, rfl, hrange.1, hrange.2, ?_⟩
        cases n with
        | zero =>
            rw [octet_last hrange, Option.some.injEq, Prod.mk.injEq] at hoctet
            obtain ⟨rfl, rfl⟩ := hoctet
            exact .inl ⟨rfl, s', hs, hrest⟩
        | succ m =>
            rw [octet_more hrange, Option.some.injEq, Prod.mk.injEq] at hoctet
            obtain ⟨rfl, rfl⟩ := hoctet
            refine .inr ⟨m, rfl, ?_⟩
            rw [hs]
            exact hrest
      · simp [octet, hrange] at hoctet

/-- A code unit outside the surrogates in front of a well-formed string. -/
theorem plain_cons {p : ℕ} (hp : p < 0x10000) (hplain : p < 0xD800 ∨ 0xE000 ≤ p) {s : JsString}
    (hs : WellFormed s) :
    WellFormed (UInt16.ofNat p :: s) ∧
      utf8Bytes (UInt16.ofNat p :: s) = unitBytes (UInt16.ofNat p) ++ utf8Bytes s ∧
      (alone (UInt16.ofNat p)).toNat = p := by
  have hval : (UInt16.ofNat p).toNat = p := by
    rw [UInt16.toNat_ofNat']
    omega
  have hhigh : isHigh (UInt16.ofNat p) = false := by
    rw [Bool.eq_false_iff, Ne, isHigh_iff]
    omega
  have hlow : isLow (UInt16.ofNat p) = false := by
    rw [Bool.eq_false_iff, Ne, isLow_iff]
    omega
  have halone := alone_of_plain hhigh hlow
  refine ⟨?_, utf8Bytes_cons_plain hhigh s, by rw [halone, hval]⟩
  show toWellFormed _ = _
  rw [toWellFormed_cons_plain hhigh, halone, show toWellFormed s = s from hs]

theorem eq_ofNat {b : UInt8} {n : ℕ} (h : n = b.toNat) : UInt8.ofNat n = b := by
  rw [h, UInt8.ofNat_toNat]

theorem encoded_one {b : UInt8} (h : b.toNat < 0x80) {s : JsString} (hs : WellFormed s) :
    WellFormed (UInt16.ofNat b.toNat :: s) ∧
      utf8Bytes (UInt16.ofNat b.toNat :: s) = b :: utf8Bytes s := by
  obtain ⟨hw, hbytes, hval⟩ := plain_cons (p := b.toNat) (by omega) (by omega) hs
  refine ⟨hw, ?_⟩
  rw [hbytes, unitBytes]
  simp only [hval]
  rw [if_pos h, eq_ofNat rfl]
  rfl

theorem encoded_two {b c : UInt8} (hb : 0xC2 ≤ b.toNat ∧ b.toNat ≤ 0xDF)
    (hc : 0x80 ≤ c.toNat ∧ c.toNat ≤ 0xBF) {s : JsString} (hs : WellFormed s) :
    WellFormed (units ((b.toNat - 0xC0) * 64 + (c.toNat - 0x80)) ++ s) ∧
      utf8Bytes (units ((b.toNat - 0xC0) * 64 + (c.toNat - 0x80)) ++ s) = b :: c :: utf8Bytes s := by
  obtain ⟨p, hp⟩ : ∃ p, p = (b.toNat - 0xC0) * 64 + (c.toNat - 0x80) := ⟨_, rfl⟩
  rw [← hp, units, if_pos (by omega), List.singleton_append]
  obtain ⟨hw, hbytes, hval⟩ := plain_cons (p := p) (by omega) (by omega) hs
  refine ⟨hw, ?_⟩
  rw [hbytes, unitBytes]
  simp only [hval]
  rw [if_neg (by omega), if_pos (by omega), eq_ofNat (b := b) (by omega),
    eq_ofNat (b := c) (by omega)]
  rfl

theorem encoded_three {b c d : UInt8} (hb : 0xE0 ≤ b.toNat ∧ b.toNat ≤ 0xEF)
    (hc : (if b.toNat = 0xE0 then 0xA0 else 0x80) ≤ c.toNat ∧
      c.toNat ≤ if b.toNat = 0xED then 0x9F else 0xBF)
    (hd : 0x80 ≤ d.toNat ∧ d.toNat ≤ 0xBF) {s : JsString} (hs : WellFormed s) :
    WellFormed (units (((b.toNat - 0xE0) * 64 + (c.toNat - 0x80)) * 64 + (d.toNat - 0x80)) ++ s) ∧
      utf8Bytes (units (((b.toNat - 0xE0) * 64 + (c.toNat - 0x80)) * 64 + (d.toNat - 0x80)) ++ s) =
        b :: c :: d :: utf8Bytes s := by
  obtain ⟨p, hp⟩ : ∃ p, p = ((b.toNat - 0xE0) * 64 + (c.toNat - 0x80)) * 64 + (d.toNat - 0x80) :=
    ⟨_, rfl⟩
  have hc80 : 0x80 ≤ c.toNat ∧ c.toNat ≤ 0xBF := by
    constructor
    · refine Nat.le_trans ?_ hc.1
      split <;> omega
    · refine Nat.le_trans hc.2 ?_
      split <;> omega
  have hlong : 0x800 ≤ p := by
    by_cases h : b.toNat = 0xE0
    · rw [if_pos h] at hc
      omega
    · omega
  have hplain : p < 0xD800 ∨ 0xE000 ≤ p := by
    by_cases h : b.toNat = 0xED
    · rw [if_pos h] at hc
      omega
    · omega
  rw [← hp, units, if_pos (by omega), List.singleton_append]
  obtain ⟨hw, hbytes, hval⟩ := plain_cons (p := p) (by omega) hplain hs
  refine ⟨hw, ?_⟩
  rw [hbytes, unitBytes]
  simp only [hval]
  rw [if_neg (by omega), if_neg (by omega), eq_ofNat (b := b) (by omega),
    eq_ofNat (b := c) (by omega), eq_ofNat (b := d) (by omega)]
  rfl

theorem encoded_four {b c d e : UInt8} (hb : 0xF0 ≤ b.toNat ∧ b.toNat ≤ 0xF4)
    (hc : (if b.toNat = 0xF0 then 0x90 else 0x80) ≤ c.toNat ∧
      c.toNat ≤ if b.toNat = 0xF4 then 0x8F else 0xBF)
    (hd : 0x80 ≤ d.toNat ∧ d.toNat ≤ 0xBF) (he : 0x80 ≤ e.toNat ∧ e.toNat ≤ 0xBF) {s : JsString}
    (hs : WellFormed s) :
    WellFormed (units ((((b.toNat - 0xF0) * 64 + (c.toNat - 0x80)) * 64 + (d.toNat - 0x80)) * 64 +
        (e.toNat - 0x80)) ++ s) ∧
      utf8Bytes (units ((((b.toNat - 0xF0) * 64 + (c.toNat - 0x80)) * 64 + (d.toNat - 0x80)) * 64 +
        (e.toNat - 0x80)) ++ s) = b :: c :: d :: e :: utf8Bytes s := by
  obtain ⟨p, hp⟩ : ∃ p, p = (((b.toNat - 0xF0) * 64 + (c.toNat - 0x80)) * 64 +
      (d.toNat - 0x80)) * 64 + (e.toNat - 0x80) := ⟨_, rfl⟩
  have hc80 : 0x80 ≤ c.toNat ∧ c.toNat ≤ 0xBF := by
    constructor
    · refine Nat.le_trans ?_ hc.1
      split <;> omega
    · refine Nat.le_trans hc.2 ?_
      split <;> omega
  have hlong : 0x10000 ≤ p := by
    by_cases h : b.toNat = 0xF0
    · rw [if_pos h] at hc
      omega
    · omega
  have hshort : p ≤ 0x10FFFF := by
    by_cases h : b.toNat = 0xF4
    · rw [if_pos h] at hc
      omega
    · omega
  rw [← hp, units, if_neg (by omega)]
  have hu : (UInt16.ofNat (0xD800 + (p - 0x10000) / 1024)).toNat = 0xD800 + (p - 0x10000) / 1024 := by
    rw [UInt16.toNat_ofNat']
    omega
  have hv : (UInt16.ofNat (0xDC00 + (p - 0x10000) % 1024)).toNat = 0xDC00 + (p - 0x10000) % 1024 := by
    rw [UInt16.toNat_ofNat']
    omega
  have hpair : (isHigh (UInt16.ofNat (0xD800 + (p - 0x10000) / 1024)) &&
      isLow (UInt16.ofNat (0xDC00 + (p - 0x10000) % 1024))) = true := by
    rw [Bool.and_eq_true, isHigh_iff, isLow_iff, hu, hv]
    omega
  constructor
  · show toWellFormed _ = _
    simp only [List.cons_append, List.nil_append, toWellFormed, hpair, if_true]
    rw [show toWellFormed s = s from hs]
  · simp only [List.cons_append, List.nil_append, utf8Bytes, hpair, if_true, pairBytes, hu, hv]
    rw [show 0x10000 + (0xD800 + (p - 0x10000) / 1024 - 0xD800) * 1024 +
      (0xDC00 + (p - 0x10000) % 1024 - 0xDC00) = p by omega, eq_ofNat (b := b) (by omega),
      eq_ofNat (b := c) (by omega), eq_ofNat (b := d) (by omega), eq_ofNat (b := e) (by omega)]

/-- The machine accepts nothing but encodings.  The induction is on the number of
octets; a character takes one to four of them. -/
theorem encoded_of_accepts (n : ℕ) : ∀ {bytes : List UInt8} {s : JsString}, bytes.length ≤ n →
    Accepts between bytes s → WellFormed s ∧ utf8Bytes s = bytes := by
  induction n with
  | zero =>
      intro bytes s hlen h
      rw [List.length_eq_zero_iff.1 (Nat.le_zero.1 hlen)] at h ⊢
      obtain ⟨e, -, hfeed⟩ := h
      rw [feed, Option.some.injEq, Prod.mk.injEq] at hfeed
      rw [← hfeed.2]
      exact ⟨rfl, rfl⟩
  | succ n ih =>
      intro bytes s hlen h
      cases bytes with
      | nil =>
          obtain ⟨e, -, hfeed⟩ := h
          rw [feed, Option.some.injEq, Prod.mk.injEq] at hfeed
          rw [← hfeed.2]
          exact ⟨rfl, rfl⟩
      | cons b rest =>
          obtain ⟨e, out, s', hoctet, hs, hrest⟩ := h.uncons
          rw [octet_between] at hoctet
          simp only [List.length_cons] at hlen
          by_cases h1 : b.toNat < 0x80
          · rw [lead_one h1, Option.some.injEq, Prod.mk.injEq] at hoctet
            obtain ⟨rfl, rfl⟩ := hoctet
            obtain ⟨hw, hbytes⟩ := ih (by omega) hrest
            obtain ⟨hw', hbytes'⟩ := encoded_one h1 hw
            rw [hs, List.singleton_append]
            exact ⟨hw', by rw [hbytes', hbytes]⟩
          by_cases h2 : 0xC2 ≤ b.toNat ∧ b.toNat ≤ 0xDF
          · rw [lead_two h2, Option.some.injEq, Prod.mk.injEq] at hoctet
            obtain ⟨rfl, rfl⟩ := hoctet
            obtain ⟨c, rest, rfl, hlo, hhi, ⟨-, t, ht, hacc⟩ | ⟨m, hm, -⟩⟩ := hrest.tail
            · simp only [List.length_cons] at hlen
              obtain ⟨hw, hbytes⟩ := ih (by omega) hacc
              obtain ⟨hw', hbytes'⟩ := encoded_two h2 ⟨hlo, hhi⟩ hw
              rw [hs, ht, List.nil_append]
              exact ⟨hw', by rw [hbytes', hbytes]⟩
            · omega
          by_cases h3 : 0xE0 ≤ b.toNat ∧ b.toNat ≤ 0xEF
          · rw [lead_three h3, Option.some.injEq, Prod.mk.injEq] at hoctet
            obtain ⟨rfl, rfl⟩ := hoctet
            obtain ⟨c, rest, rfl, hlo, hhi, ⟨hn, -⟩ | ⟨m, hm, hacc⟩⟩ := hrest.tail
            · omega
            obtain rfl : m = 0 := by omega
            obtain ⟨d, rest, rfl, hlo', hhi', ⟨-, t, ht, hacc⟩ | ⟨m, hm, -⟩⟩ := hacc.tail
            · simp only [List.length_cons] at hlen
              obtain ⟨hw, hbytes⟩ := ih (by omega) hacc
              obtain ⟨hw', hbytes'⟩ := encoded_three h3 ⟨hlo, hhi⟩ ⟨hlo', hhi'⟩ hw
              rw [hs, ht, List.nil_append]
              exact ⟨hw', by rw [hbytes', hbytes]⟩
            · omega
          by_cases h4 : 0xF0 ≤ b.toNat ∧ b.toNat ≤ 0xF4
          · rw [lead_four h4, Option.some.injEq, Prod.mk.injEq] at hoctet
            obtain ⟨rfl, rfl⟩ := hoctet
            obtain ⟨c, rest, rfl, hlo, hhi, ⟨hn, -⟩ | ⟨m, hm, hacc⟩⟩ := hrest.tail
            · omega
            obtain rfl : m = 1 := by omega
            obtain ⟨d, rest, rfl, hlo', hhi', ⟨hn, -⟩ | ⟨m, hm, hacc⟩⟩ := hacc.tail
            · omega
            obtain rfl : m = 0 := by omega
            obtain ⟨e, rest, rfl, hlo'', hhi'', ⟨-, t, ht, hacc⟩ | ⟨m, hm, -⟩⟩ := hacc.tail
            · simp only [List.length_cons] at hlen
              obtain ⟨hw, hbytes⟩ := ih (by omega) hacc
              obtain ⟨hw', hbytes'⟩ :=
                encoded_four h4 ⟨hlo, hhi⟩ ⟨hlo', hhi'⟩ ⟨hlo'', hhi''⟩ hw
              rw [hs, ht, List.nil_append]
              exact ⟨hw', by rw [hbytes', hbytes]⟩
            · omega
          · rw [lead, if_neg h1, if_neg h2, if_neg h3, if_neg h4] at hoctet
            cases hoctet

/-- **The decoder accepts exactly the encodings of well-formed strings.** -/
theorem decode_eq_some_iff {bytes : List UInt8} {s : JsString} :
    decode bytes = some s ↔ WellFormed s ∧ utf8Bytes s = bytes := by
  constructor
  · intro h
    exact encoded_of_accepts bytes.length (Nat.le_refl _) (decode_eq_some h)
  · rintro ⟨hw, rfl⟩
    rw [decode_utf8Bytes, show toWellFormed s = s from hw]

/-! ## Code points -/

/-- The number of code points of a string. -/
def codePoints (s : JsString) : ℕ := (scalars s).length

theorem codePoints_le_length (s : JsString) : codePoints s ≤ s.length := by
  unfold codePoints
  induction s using scalars.induct with
  | case1 => exact Nat.le_refl 0
  | case2 u => exact Nat.le_refl 1
  | case3 u v rest h ih =>
      rw [scalars, if_pos h]
      simp only [List.length_cons]
      omega
  | case4 u v rest h ih =>
      rw [scalars, if_neg h]
      simp only [List.length_cons] at ih ⊢
      omega

theorem unitBytes_length_pos (u : UInt16) : 1 ≤ (unitBytes u).length := by
  unfold unitBytes
  dsimp only
  split_ifs <;> simp

/-- Every code point has its bytes. -/
theorem codePoints_le_bytes (s : JsString) : codePoints s ≤ utf8ByteLength s := by
  unfold codePoints utf8ByteLength
  induction s using scalars.induct with
  | case1 => exact Nat.le_refl 0
  | case2 u => exact unitBytes_length_pos u
  | case3 u v rest h ih =>
      rw [scalars, utf8Bytes, if_pos h, if_pos h]
      simp only [List.length_cons, List.length_append, pairBytes]
      omega
  | case4 u v rest h ih =>
      have hu := unitBytes_length_pos u
      rw [scalars, utf8Bytes, if_neg h, if_neg h]
      simp only [List.length_cons, List.length_append]
      omega

theorem codePoints_pos {s : JsString} (h : s ≠ []) : 1 ≤ codePoints s := by
  unfold codePoints
  cases s with
  | nil => exact absurd rfl h
  | cons u rest =>
      cases rest with
      | nil => exact Nat.le_refl 1
      | cons v rest =>
          rw [scalars]
          split <;> simp

/-- Without high surrogates every code unit is a code point. -/
theorem codePoints_of_plain {s : JsString} (h : ∀ u ∈ s, isHigh u = false) :
    codePoints s = s.length := by
  unfold codePoints
  induction s with
  | nil => rfl
  | cons u rest ih =>
      have hu := h u (List.mem_cons_self ..)
      have hrest := ih fun v hv => h v (List.mem_cons_of_mem _ hv)
      cases rest with
      | nil => rfl
      | cons v rest => simpa [scalars, hu] using hrest

/-! ## Literals -/

theorem scalars_cons_plain {u : UInt16} (h : isHigh u = false) (s : JsString) :
    scalars (u :: s) = Char.ofNat (alone u).toNat :: scalars s := by
  cases s with
  | nil => rfl
  | cons v rest => simp [scalars, h]

/-- A code point below the surrogates, or between them and the pairs. -/
theorem plain_of_char {c : Char} (h : c.toNat < 0x10000) :
    isHigh (UInt16.ofNat c.toNat) = false ∧ isLow (UInt16.ofNat c.toNat) = false ∧
      (UInt16.ofNat c.toNat).toNat = c.toNat := by
  have hvalue : (UInt16.ofNat c.toNat).toNat = c.toNat := UInt16.toNat_ofNat_of_lt' h
  have hvalid : c.toNat < 0xD800 ∨ (0xDFFF < c.toNat ∧ c.toNat < 0x110000) := c.valid
  simp only [isHigh, isLow, Bool.and_eq_false_iff, decide_eq_false_iff_not,
    UInt16.le_iff_toNat_le, hvalue]
  refine ⟨?_, ?_, trivial⟩
  · rcases hvalid with hlow | hhigh
    · exact Or.inl (by simpa using hlow)
    · exact Or.inr (by simp; omega)
  · rcases hvalid with hlow | hhigh
    · exact Or.inl (by simp; omega)
    · exact Or.inr (by simpa using hhigh.1)

/-- A code point that takes a pair. -/
theorem pair_of_char {c : Char} (h : 0x10000 ≤ c.toNat) :
    ∃ u v : UInt16, charUnits c = [u, v] ∧ isHigh u = true ∧ isLow v = true ∧
      0x10000 + (u.toNat - 0xD800) * 1024 + (v.toNat - 0xDC00) = c.toNat := by
  have hlt : c.toNat < 0x110000 := by
    have hvalid : c.toNat < 0xD800 ∨ (0xDFFF < c.toNat ∧ c.toNat < 0x110000) := c.valid
    omega
  have hu : (UInt16.ofNat (0xD800 + (c.toNat - 0x10000) / 1024)).toNat =
      0xD800 + (c.toNat - 0x10000) / 1024 := UInt16.toNat_ofNat_of_lt' (by
    simp only [UInt16.size]
    omega)
  have hv : (UInt16.ofNat (0xDC00 + (c.toNat - 0x10000) % 1024)).toNat =
      0xDC00 + (c.toNat - 0x10000) % 1024 := UInt16.toNat_ofNat_of_lt' (by
    simp only [UInt16.size]
    omega)
  refine ⟨_, _, by rw [charUnits, if_neg (by omega)], ?_, ?_, ?_⟩
  · simp only [isHigh, Bool.and_eq_true, decide_eq_true_eq, UInt16.le_iff_toNat_le, hu]
    simp
    omega
  · simp only [isLow, Bool.and_eq_true, decide_eq_true_eq, UInt16.le_iff_toNat_le, hv]
    simp
    omega
  · rw [hu, hv]
    omega

/-- The characters of a text are read back from its code units. -/
theorem scalars_charUnits (cs : List Char) : scalars (cs.flatMap charUnits) = cs := by
  induction cs with
  | nil => rfl
  | cons c cs ih =>
      rw [List.flatMap_cons]
      by_cases hpair : 0x10000 ≤ c.toNat
      · obtain ⟨u, v, hunits, hhigh, hlow, hvalue⟩ := pair_of_char hpair
        rw [hunits]
        simp only [List.cons_append, List.nil_append, scalars, hhigh, hlow, Bool.and_self, if_true,
          hvalue, Char.ofNat_toNat, ih]
      · rw [Nat.not_le] at hpair
        obtain ⟨hhigh, hlow, hvalue⟩ := plain_of_char hpair
        rw [charUnits, if_pos hpair, List.singleton_append, scalars_cons_plain hhigh,
          alone_of_plain hhigh hlow, hvalue, Char.ofNat_toNat, ih]

/-- Different literals are different strings. -/
theorem js_injective : Function.Injective js := by
  intro s t h
  have hscalars := congrArg scalars h
  rw [js, js, scalars_charUnits, scalars_charUnits] at hscalars
  exact String.toList_injective hscalars

end Utf8
