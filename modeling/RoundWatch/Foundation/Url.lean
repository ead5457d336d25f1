import RoundWatch.Foundation.Text
import Mathlib.Data.List.Basic
import Mathlib.Tactic.IntervalCases

/-!
# URLs

The parts of a `URL`, and `URLSearchParams` as it writes it:
`application/x-www-form-urlencoded`, on code units.  Two lists of parameters are written
alike only when they are the same list of well-formed names and values (`query_injective`).
-/

open JsText in
/-- The parts of a `URL`; `search` and `hash` with their marks. -/
structure URL where
  protocol : JsString
  username : JsString
  password : JsString
  search : JsString
  hash : JsString
  origin : JsString
  href : JsString
  deriving DecidableEq, Repr

open JsText in
/-- `new URL(input, base)`, which may throw. -/
abbrev UrlParser := JsString → Option JsString → Option URL

namespace Url

open JsText

/-! ## Reading UTF-8 back -/

/-- The text whose UTF-8 the bytes are. -/
def readUtf8 : List UInt8 → JsString
  | [] => []
  | b :: rest =>
      if b.toNat < 0x80 then UInt16.ofNat b.toNat :: readUtf8 rest
      else
        match rest with
        | [] => []
        | c :: rest =>
            if b.toNat < 0xE0 then
              UInt16.ofNat ((b.toNat - 0xC0) * 64 + (c.toNat - 0x80)) :: readUtf8 rest
            else
              match rest with
              | [] => []
              | d :: rest =>
                  if b.toNat < 0xF0 then
                    UInt16.ofNat ((b.toNat - 0xE0) * 4096 + (c.toNat - 0x80) * 64 +
                      (d.toNat - 0x80)) :: readUtf8 rest
                  else
                    match rest with
                    | [] => []
                    | e :: rest =>
                        let n := (b.toNat - 0xF0) * 262144 + (c.toNat - 0x80) * 4096 +
                          (d.toNat - 0x80) * 64 + (e.toNat - 0x80) - 0x10000
                        UInt16.ofNat (0xD800 + n / 1024) :: UInt16.ofNat (0xDC00 + n % 1024) ::
                          readUtf8 rest

theorem uint16_ofNat_eq {u : UInt16} {n : ℕ} (h : n = u.toNat) : UInt16.ofNat n = u := by
  rw [h, UInt16.ofNat_toNat]

theorem readUtf8_unitBytes (u : UInt16) (rest : List UInt8) :
    readUtf8 (unitBytes u ++ rest) = alone u :: readUtf8 rest := by
  have hlt := (alone u).toNat_lt
  unfold unitBytes
  dsimp only
  split
  · rename_i h
    have hb : (UInt8.ofNat (alone u).toNat).toNat = (alone u).toNat := by
      rw [UInt8.toNat_ofNat']
      omega
    rw [List.singleton_append]
    conv_lhs => rw [readUtf8.eq_def]
    dsimp only
    rw [hb, if_pos h, UInt16.ofNat_toNat]
  · split
    · rename_i h h'
      have hb : (UInt8.ofNat (0xC0 + (alone u).toNat / 64)).toNat = 0xC0 + (alone u).toNat / 64 := by
        rw [UInt8.toNat_ofNat']
        omega
      have hc : (UInt8.ofNat (0x80 + (alone u).toNat % 64)).toNat = 0x80 + (alone u).toNat % 64 := by
        rw [UInt8.toNat_ofNat']
        omega
      rw [List.cons_append, List.cons_append, List.nil_append]
      conv_lhs => rw [readUtf8.eq_def]
      dsimp only
      rw [hb, hc, if_neg (by omega), if_pos (by omega), uint16_ofNat_eq (u := alone u) (by omega)]
    · rename_i h h'
      have hb : (UInt8.ofNat (0xE0 + (alone u).toNat / 4096)).toNat =
          0xE0 + (alone u).toNat / 4096 := by
        rw [UInt8.toNat_ofNat']
        omega
      have hc : (UInt8.ofNat (0x80 + (alone u).toNat / 64 % 64)).toNat =
          0x80 + (alone u).toNat / 64 % 64 := by
        rw [UInt8.toNat_ofNat']
        omega
      have hd : (UInt8.ofNat (0x80 + (alone u).toNat % 64)).toNat = 0x80 + (alone u).toNat % 64 := by
        rw [UInt8.toNat_ofNat']
        omega
      rw [List.cons_append, List.cons_append, List.cons_append, List.nil_append]
      conv_lhs => rw [readUtf8.eq_def]
      dsimp only
      rw [hb, hc, hd, if_neg (by omega), if_neg (by omega), if_pos (by omega),
        uint16_ofNat_eq (u := alone u) (by omega)]

theorem readUtf8_pairBytes {u v : UInt16} (hu : isHigh u = true) (hv : isLow v = true)
    (rest : List UInt8) : readUtf8 (pairBytes u v ++ rest) = u :: v :: readUtf8 rest := by
  simp only [isHigh, isLow, Bool.and_eq_true, decide_eq_true_eq, UInt16.le_iff_toNat_le] at hu hv
  have hu₁ : 0xD800 ≤ u.toNat := hu.1
  have hu₂ : u.toNat ≤ 0xDBFF := hu.2
  have hv₁ : 0xDC00 ≤ v.toNat := hv.1
  have hv₂ : v.toNat ≤ 0xDFFF := hv.2
  obtain ⟨n, hn⟩ : ∃ n, n = 0x10000 + (u.toNat - 0xD800) * 1024 + (v.toNat - 0xDC00) := ⟨_, rfl⟩
  have hb : (UInt8.ofNat (0xF0 + n / 262144)).toNat = 0xF0 + n / 262144 := by
    rw [UInt8.toNat_ofNat']
    omega
  have hc : (UInt8.ofNat (0x80 + n / 4096 % 64)).toNat = 0x80 + n / 4096 % 64 := by
    rw [UInt8.toNat_ofNat']
    omega
  have hd : (UInt8.ofNat (0x80 + n / 64 % 64)).toNat = 0x80 + n / 64 % 64 := by
    rw [UInt8.toNat_ofNat']
    omega
  have he : (UInt8.ofNat (0x80 + n % 64)).toNat = 0x80 + n % 64 := by
    rw [UInt8.toNat_ofNat']
    omega
  have hvalue : (0xF0 + n / 262144 - 0xF0) * 262144 + (0x80 + n / 4096 % 64 - 0x80) * 4096 +
      (0x80 + n / 64 % 64 - 0x80) * 64 + (0x80 + n % 64 - 0x80) = n := by omega
  unfold pairBytes
  dsimp only
  rw [← hn, List.cons_append, List.cons_append, List.cons_append, List.cons_append,
    List.nil_append]
  conv_lhs => rw [readUtf8.eq_def]
  dsimp only
  rw [hb, hc, hd, he, if_neg (by omega), if_neg (by omega), if_neg (by omega), hvalue,
    uint16_ofNat_eq (u := u) (by omega), uint16_ofNat_eq (u := v) (by omega)]

/-- Reading UTF-8 gives the well-formed text back. -/
theorem readUtf8_utf8Bytes (s : JsString) : readUtf8 (utf8Bytes s) = toWellFormed s := by
  induction s using toWellFormed.induct with
  | case1 => rfl
  | case2 u => simpa [utf8Bytes, toWellFormed, readUtf8] using readUtf8_unitBytes u []
  | case3 u v rest h ih =>
      have hpair : isHigh u = true ∧ isLow v = true := by simpa using h
      simp only [utf8Bytes, toWellFormed, h, if_true]
      rw [readUtf8_pairBytes hpair.1 hpair.2, ih]
  | case4 u v rest h ih =>
      simp only [utf8Bytes, toWellFormed, h, if_false, Bool.false_eq_true]
      rw [readUtf8_unitBytes, ih]

/-- Well-formed texts with the same UTF-8 are the same. -/
theorem eq_of_utf8Bytes_eq {s t : JsString} (hs : WellFormed s) (ht : WellFormed t)
    (h : utf8Bytes s = utf8Bytes t) : s = t := by
  have hread : toWellFormed s = toWellFormed t := by
    rw [← readUtf8_utf8Bytes, h, readUtf8_utf8Bytes]
  rwa [hs, ht] at hread

/-! ## Names and values -/

/-- The code unit of a hexadecimal digit. -/
def hexUnit (n : ℕ) : UInt16 := if n < 10 then UInt16.ofNat (48 + n) else UInt16.ofNat (55 + n)

/-- Bytes that stand for themselves: letters, digits and `*-._`. -/
def isUnreserved (b : UInt8) : Bool :=
  (65 ≤ b.toNat && b.toNat ≤ 90) || (97 ≤ b.toNat && b.toNat ≤ 122) ||
    (48 ≤ b.toNat && b.toNat ≤ 57) || b == 42 || b == 45 || b == 46 || b == 95

/-- What is written for a byte. -/
def formByte (b : UInt8) : JsString :=
  if isUnreserved b then [UInt16.ofNat b.toNat]
  else if b = 32 then [43]
  else [37, hexUnit (b.toNat / 16), hexUnit (b.toNat % 16)]

/-- What is written for a name or a value. -/
def formEncode (s : JsString) : JsString := (utf8Bytes s).flatMap formByte

theorem hexUnit_range {n : ℕ} (h : n < 16) :
    (48 ≤ (hexUnit n).toNat ∧ (hexUnit n).toNat ≤ 57) ∨
      (65 ≤ (hexUnit n).toNat ∧ (hexUnit n).toNat ≤ 70) := by
  interval_cases n <;> decide

theorem hexUnit_injective {m n : ℕ} (hm : m < 16) (hn : n < 16) (h : hexUnit m = hexUnit n) :
    m = n := by
  have hvalue : ∀ k, k < 16 → (hexUnit k).toNat = if k < 10 then 48 + k else 55 + k := by
    intro k hk
    interval_cases k <;> rfl
  have heq := congrArg UInt16.toNat h
  rw [hvalue m hm, hvalue n hn] at heq
  split at heq <;> split at heq <;> omega

/-- The code unit of a byte that stands for itself. -/
theorem unreserved_range {b : UInt8} (h : isUnreserved b = true) :
    (UInt16.ofNat b.toNat).toNat = b.toNat ∧
      ((65 ≤ b.toNat ∧ b.toNat ≤ 90) ∨ (97 ≤ b.toNat ∧ b.toNat ≤ 122) ∨
        (48 ≤ b.toNat ∧ b.toNat ≤ 57) ∨ b.toNat = 42 ∨ b.toNat = 45 ∨ b.toNat = 46 ∨
        b.toNat = 95) := by
  have hb := b.toNat_lt
  refine ⟨by rw [UInt16.toNat_ofNat']; omega, ?_⟩
  simp only [isUnreserved, Bool.or_eq_true, Bool.and_eq_true, decide_eq_true_eq, beq_iff_eq] at h
  have hnat : ∀ c : UInt8, b = c → b.toNat = c.toNat := fun c hc => congrArg UInt8.toNat hc
  rcases h with (((((h | h) | h) | h) | h) | h) | h
  · exact Or.inl h
  · exact Or.inr (Or.inl h)
  · exact Or.inr (Or.inr (Or.inl h))
  · exact Or.inr (Or.inr (Or.inr (Or.inl (hnat _ h))))
  · exact Or.inr (Or.inr (Or.inr (Or.inr (Or.inl (hnat _ h)))))
  · exact Or.inr (Or.inr (Or.inr (Or.inr (Or.inr (Or.inl (hnat _ h))))))
  · exact Or.inr (Or.inr (Or.inr (Or.inr (Or.inr (Or.inr (hnat _ h))))))

/-- The marks between the parts of a URL never stand inside a name or a value. -/
theorem mark_notMem_formByte {u : UInt16} (hu : u = 38 ∨ u = 47 ∨ u = 61) (b : UInt8) :
    u ∉ formByte b := by
  have hvalue : u.toNat = 38 ∨ u.toNat = 47 ∨ u.toNat = 61 := by
    rcases hu with rfl | rfl | rfl
    · exact Or.inl rfl
    · exact Or.inr (Or.inl rfl)
    · exact Or.inr (Or.inr rfl)
  intro hmem
  unfold formByte at hmem
  split at hmem
  · rename_i h
    obtain ⟨heq, hrange⟩ := unreserved_range h
    rw [List.mem_singleton.1 hmem, heq] at hvalue
    omega
  · split at hmem
    · rw [List.mem_singleton.1 hmem] at hvalue
      exact absurd hvalue (by decide)
    · have hb := b.toNat_lt
      simp only [List.mem_cons, List.not_mem_nil, or_false] at hmem
      rcases hmem with rfl | rfl | rfl
      · exact absurd hvalue (by decide)
      · have hrange := hexUnit_range (n := b.toNat / 16) (by omega)
        omega
      · have hrange := hexUnit_range (n := b.toNat % 16) (by omega)
        omega

theorem mark_notMem_formEncode {u : UInt16} (hu : u = 38 ∨ u = 47 ∨ u = 61) (s : JsString) :
    u ∉ formEncode s := by
  intro hmem
  obtain ⟨b, -, hb⟩ := List.mem_flatMap.1 hmem
  exact mark_notMem_formByte hu b hb

/-- What is written for a byte tells the byte and where it ends. -/
theorem formByte_append {a b : UInt8} {xs ys : JsString}
    (h : formByte a ++ xs = formByte b ++ ys) : a = b ∧ xs = ys := by
  have hunit : ∀ c : UInt8, isUnreserved c = true → UInt16.ofNat c.toNat ≠ 43 ∧
      UInt16.ofNat c.toNat ≠ 37 := by
    intro c hc
    obtain ⟨heq, hrange⟩ := unreserved_range hc
    constructor
    · intro h43
      rw [h43] at heq
      have : (43 : UInt16).toNat = 43 := rfl
      omega
    · intro h37
      rw [h37] at heq
      have : (37 : UInt16).toNat = 37 := rfl
      omega
  have ha := a.toNat_lt
  have hb := b.toNat_lt
  unfold formByte at h
  split at h
  · rename_i hua
    split at h
    · rename_i hub
      obtain ⟨hhead, htail⟩ := List.cons.inj h
      have hnat := congrArg UInt16.toNat hhead
      rw [(unreserved_range hua).1, (unreserved_range hub).1] at hnat
      exact ⟨UInt8.toNat_inj.1 hnat, htail⟩
    · split at h
      · exact absurd (List.cons.inj h).1 (hunit a hua).1
      · exact absurd (List.cons.inj h).1 (hunit a hua).2
  · split at h
    · rename_i hna
      split at h
      · rename_i hub
        exact absurd (List.cons.inj h).1.symm (hunit b hub).1
      · split at h
        · rename_i hnb
          exact ⟨hna.trans hnb.symm, (List.cons.inj h).2⟩
        · exact absurd (List.cons.inj h).1 (by decide)
    · split at h
      · rename_i hub
        exact absurd (List.cons.inj h).1.symm (hunit b hub).2
      · split at h
        · exact absurd (List.cons.inj h).1 (by decide)
        · obtain ⟨-, h⟩ := List.cons.inj h
          obtain ⟨hhigh, h⟩ := List.cons.inj h
          obtain ⟨hlow, htail⟩ := List.cons.inj h
          have h₁ := hexUnit_injective (by omega) (by omega) hhigh
          have h₂ := hexUnit_injective (by omega) (by omega) hlow
          exact ⟨UInt8.toNat_inj.1 (by omega), htail⟩

theorem formByte_ne_nil (b : UInt8) : formByte b ≠ [] := by
  unfold formByte
  split
  · simp
  · split <;> simp

theorem flatMap_formByte_injective {as bs : List UInt8}
    (h : as.flatMap formByte = bs.flatMap formByte) : as = bs := by
  induction as generalizing bs with
  | nil =>
      cases bs with
      | nil => rfl
      | cons b bs =>
          rw [List.flatMap_nil, List.flatMap_cons] at h
          exact absurd (List.append_eq_nil_iff.1 h.symm).1 (formByte_ne_nil b)
  | cons a as ih =>
      cases bs with
      | nil =>
          rw [List.flatMap_nil, List.flatMap_cons] at h
          exact absurd (List.append_eq_nil_iff.1 h).1 (formByte_ne_nil a)
      | cons b bs =>
          rw [List.flatMap_cons, List.flatMap_cons] at h
          obtain ⟨rfl, htail⟩ := formByte_append h
          rw [ih htail]

/-- Two well-formed texts are written alike only when they are the same. -/
theorem formEncode_injective {s t : JsString} (hs : WellFormed s) (ht : WellFormed t)
    (h : formEncode s = formEncode t) : s = t :=
  eq_of_utf8Bytes_eq hs ht (flatMap_formByte_injective h)

/-! ## Queries -/

/-- A parameter: its name, `=`, and its value. -/
def parameter (p : JsString × JsString) : JsString := formEncode p.1 ++ 61 :: formEncode p.2

/-- The parameters, with `&` in between. -/
def query (params : List (JsString × JsString)) : JsString :=
  [38].intercalate (params.map parameter)

/-- `URLSearchParams.prototype.get`. -/
def get (params : List (JsString × JsString)) (name : JsString) : Option JsString :=
  (params.find? fun p => p.1 == name).map Prod.snd

/-- A parameter that is set only when there is a value for it. -/
def optional (name : JsString) (value : Option JsString) : List (JsString × JsString) :=
  value.toList.map fun v => (name, v)

@[simp] theorem get_nil (name : JsString) : get [] name = none := rfl

theorem get_optional_self (name : JsString) (value : Option JsString)
    (rest : List (JsString × JsString)) :
    get (optional name value ++ rest) name = value.or (get rest name) := by
  cases value with
  | none => rfl
  | some v => simp [get, optional]

theorem get_optional_other {name other : JsString} (h : name ≠ other) (value : Option JsString)
    (rest : List (JsString × JsString)) :
    get (optional name value ++ rest) other = get rest other := by
  cases value with
  | none => rfl
  | some v =>
      have hne : (name == other) = false := by simpa using h
      simp [get, optional, hne]

theorem mark_notMem_parameter {u : UInt16} (hu : u = 38 ∨ u = 47) (p : JsString × JsString) :
    u ∉ parameter p := by
  have hmark : u = 38 ∨ u = 47 ∨ u = 61 := hu.elim Or.inl fun h => Or.inr (Or.inl h)
  have hne : u ≠ 61 := by
    rcases hu with rfl | rfl <;> decide
  intro hmem
  rcases List.mem_append.1 hmem with hmem | hmem
  · exact mark_notMem_formEncode hmark _ hmem
  · rcases List.mem_cons.1 hmem with heq | hmem
    · exact hne heq
    · exact mark_notMem_formEncode hmark _ hmem

/-- A name and a value in which `URLSearchParams` has nothing to repair. -/
def WellFormedParameter (p : JsString × JsString) : Prop := WellFormed p.1 ∧ WellFormed p.2

theorem parameter_injective {p q : JsString × JsString} (hp : WellFormedParameter p)
    (hq : WellFormedParameter q) (h : parameter p = parameter q) : p = q := by
  obtain ⟨hname, -, hvalue⟩ := (List.append_cons_inj_of_notMem
    (mark_notMem_formEncode (Or.inr (Or.inr rfl)) p.1)
    (mark_notMem_formEncode (Or.inr (Or.inr rfl)) p.2)).1 h
  exact Prod.ext (formEncode_injective hp.1 hq.1 hname) (formEncode_injective hp.2 hq.2 hvalue)

theorem map_parameter_injective {ps qs : List (JsString × JsString)}
    (hp : ∀ p ∈ ps, WellFormedParameter p) (hq : ∀ q ∈ qs, WellFormedParameter q)
    (h : ps.map parameter = qs.map parameter) : ps = qs := by
  induction ps generalizing qs with
  | nil => exact (List.map_eq_nil_iff.1 h.symm).symm
  | cons p ps ih =>
      cases qs with
      | nil => cases h
      | cons q qs =>
          rw [List.map_cons, List.map_cons, List.cons.injEq] at h
          rw [List.forall_mem_cons] at hp hq
          rw [parameter_injective hp.1 hq.1 h.1, ih hp.2 hq.2 h.2]

/-- **A query tells its parameters.** -/
theorem query_injective {ps qs : List (JsString × JsString)} (hps : ps ≠ []) (hqs : qs ≠ [])
    (hp : ∀ p ∈ ps, WellFormedParameter p) (hq : ∀ q ∈ qs, WellFormedParameter q)
    (h : query ps = query qs) : ps = qs := by
  have hsplit : ∀ rs : List (JsString × JsString), rs ≠ [] →
      (query rs).splitOn 38 = rs.map parameter := by
    intro rs hrs
    refine List.splitOn_intercalate 38 (fun l hl => ?_) (by simpa using hrs)
    obtain ⟨p, -, rfl⟩ := List.mem_map.1 hl
    exact mark_notMem_parameter (Or.inl rfl) p
  refine map_parameter_injective hp hq ?_
  rw [← hsplit ps hps, ← hsplit qs hqs, h]

theorem slash_notMem_query (ps : List (JsString × JsString)) : (47 : UInt16) ∉ query ps := by
  unfold query
  induction ps with
  | nil => simp
  | cons p ps ih =>
      cases ps with
      | nil => simpa using mark_notMem_parameter (Or.inr rfl) p
      | cons q qs =>
          rw [List.map_cons, List.map_cons, List.intercalate_cons_cons]
          intro hmem
          rcases List.mem_append.1 hmem with hmem | hmem
          · rcases List.mem_append.1 hmem with hmem | hmem
            · exact mark_notMem_parameter (Or.inr rfl) p hmem
            · exact absurd (List.mem_singleton.1 hmem) (by decide)
          · exact ih hmem

end Url
