import RoundWatch.Foundation.Utf8
import RoundWatch.Observatory.Transport

/-!
# The paths of the paid resources

The payment middleware finds its resources under more names than one: it decodes segments, takes
many slashes for one and does not tell capitals from small letters.  The application keeps one
name for each resource and turns the others away before the middleware sees them.

* `normalizeX402RawPath`, `normalizeX402DecodedPath` — the paths as the middleware takes them;
* `classifyPaidResourceRequest` — whose name a path is, and whether it is the canonical one;
* `segments` — a path without its slashes;
* `paid_resource_iff` — a request is for a resource exactly if its path has the segments of it.
-/

namespace RoundWatch

open JsText

/-! ## Paths -/

/-- `path.split(/[?#]/)[0]`. -/
def cutQuery (path : JsString) : JsString := path.takeWhile fun u => u != 63 && u != 35

/-- `path.split('/')`. -/
def pieces : JsString → List JsString
  | [] => [[]]
  | u :: rest =>
      if u = 47 then [] :: pieces rest
      else
        match pieces rest with
        | [] => [[u]]
        | piece :: more => (u :: piece) :: more

/-- What `.` does not stand for in a regular expression. -/
def isLineTerminator (u : UInt16) : Bool := u = 10 || u = 13 || u = 0x2028 || u = 0x2029

/-- `path.replace(/(.+?)\/+$/, '$1')` where no slash follows a slash. -/
def trimSlash (path : JsString) : JsString :=
  if path.getLast? = some 47 ∧ (path.dropLast.getLast?.any fun u => !isLineTerminator u) then
    path.dropLast
  else path

def normalizeX402DecodedPath (path : JsString) : JsString :=
  let trimmed := trimSlash (Observatory.collapseSlashes (cutQuery path))
  if trimmed = [] then [47] else trimmed

/-- The value of a hexadecimal digit. -/
def hexDigit? (u : UInt16) : Option UInt8 :=
  if 48 ≤ u ∧ u ≤ 57 then some (u - 48).toUInt8
  else if 65 ≤ u ∧ u ≤ 70 then some (u - 55).toUInt8
  else if 97 ≤ u ∧ u ≤ 102 then some (u - 87).toUInt8
  else none

/-- `decodeURIComponent`, which throws on what is no UTF-8; `pending` are the bytes of the escapes
just read. -/
def decodeEscapes (pending : List UInt8) : JsString → Option JsString
  | 37 :: high :: low :: rest =>
      (hexDigit? high).bind fun h =>
      (hexDigit? low).bind fun l => decodeEscapes (pending ++ [16 * h + l]) rest
  | 37 :: _ => none
  | u :: rest =>
      (Utf8.decode pending).bind fun text =>
      (decodeEscapes [] rest).map fun more => text ++ u :: more
  | [] => Utf8.decode pending

def decodeURIComponent (s : JsString) : Option JsString := decodeEscapes [] s

/-- A segment with its escapes decoded; one that cannot be decoded stays. -/
def decodeSegment (segment : JsString) : JsString :=
  match decodeURIComponent segment with
  | none => segment
  | some decoded =>
      decoded.flatMap fun u => if u = 47 then js "%2F" else if u = 92 then js "%5C" else [u]

def decodeSegments (path : JsString) : JsString :=
  List.intercalate [47] ((pieces path).map decodeSegment)

def normalizeX402RawPath (path : JsString) : JsString :=
  normalizeX402DecodedPath (decodeSegments (cutQuery path))

structure PaidResourceMatch where
  canonicalPath : JsString
  canonical : Bool
  deriving DecidableEq

/-- `classifyPaidResourceRequest`, where `upperMethod` is `method.toUpperCase()` and `rawPath` the
path name of the URL. -/
def classifyPaidResourceRequest (toLowerCase : JsString → JsString) (watchPath : JsString)
    (upperMethod rawPath frameworkPath : JsString) : Option PaidResourceMatch :=
  let canonicalPath :=
    if upperMethod = js "GET" then some (js "/demo")
    else if upperMethod = js "POST" then some watchPath
    else none
  canonicalPath.bind fun canonicalPath =>
    if toLowerCase (normalizeX402RawPath rawPath) = toLowerCase canonicalPath ∨
        toLowerCase (normalizeX402DecodedPath frameworkPath) = toLowerCase canonicalPath then
      some ⟨canonicalPath, frameworkPath = canonicalPath⟩
    else none

/-! ## Segments -/

/-- The pieces of a path that are not empty. -/
def segments (path : JsString) : List JsString := (pieces path).filter (· ≠ [])

/-- A path out of its segments. -/
def pathOf (parts : List JsString) : JsString := parts.flatMap (47 :: ·)

theorem pieces_ne_nil : ∀ path, pieces path ≠ []
  | [] => by simp [pieces]
  | u :: rest => by
      rw [pieces]
      split
      · simp
      · split <;> simp

theorem pieces_slash (rest : JsString) : pieces (47 :: rest) = [] :: pieces rest := by
  simp [pieces]

theorem pieces_word {s : JsString} (hs : 47 ∉ s) : pieces s = [s] := by
  induction s with
  | nil => rfl
  | cons u s ih =>
      rw [List.mem_cons, not_or] at hs
      rw [pieces, if_neg (Ne.symm hs.1), ih hs.2]

theorem pieces_word_slash {s : JsString} (hs : 47 ∉ s) (rest : JsString) :
    pieces (s ++ 47 :: rest) = s :: pieces rest := by
  induction s with
  | nil => exact pieces_slash rest
  | cons u s ih =>
      rw [List.mem_cons, not_or] at hs
      rw [List.cons_append, pieces, if_neg (Ne.symm hs.1), ih hs.2]

theorem segments_slash (rest : JsString) : segments (47 :: rest) = segments rest := by
  rw [segments, pieces_slash, segments]
  rfl

theorem segments_word {s : JsString} (hs : 47 ∉ s) (hne : s ≠ []) : segments s = [s] := by
  simp [segments, pieces_word hs, hne]

theorem segments_word_slash {s : JsString} (hs : 47 ∉ s) (hne : s ≠ []) (rest : JsString) :
    segments (s ++ 47 :: rest) = s :: segments rest := by
  simp [segments, pieces_word_slash hs, hne]

/-- Segments are words. -/
theorem of_mem_pieces {path s : JsString} (h : s ∈ pieces path) : 47 ∉ s := by
  induction path generalizing s with
  | nil =>
      rw [pieces, List.mem_singleton] at h
      simp [h]
  | cons u rest ih =>
      rw [pieces] at h
      split at h
      · rcases List.mem_cons.1 h with rfl | h
        · simp
        · exact ih h
      · rename_i hu
        split at h
        · rename_i hnil
          exact absurd hnil (pieces_ne_nil rest)
        · rename_i piece more hpieces
          rw [hpieces] at ih
          rcases List.mem_cons.1 h with rfl | h
          · rw [List.mem_cons, not_or]
            exact ⟨fun heq => hu heq.symm, ih (List.mem_cons_self ..)⟩
          · exact ih (List.mem_cons_of_mem _ h)

theorem of_mem_segments {path s : JsString} (h : s ∈ segments path) : 47 ∉ s ∧ s ≠ [] := by
  obtain ⟨hmem, hne⟩ := List.mem_filter.1 h
  exact ⟨of_mem_pieces hmem, of_decide_eq_true hne⟩

/-- A pathOf path comes apart into its words. -/
theorem pieces_pathOf {parts : List JsString} (h : ∀ s ∈ parts, 47 ∉ s) :
    pieces (pathOf parts) = [] :: parts := by
  induction parts with
  | nil => rfl
  | cons s rest ih =>
      have hs := h s (List.mem_cons_self ..)
      have hrest := ih fun t ht => h t (List.mem_cons_of_mem _ ht)
      rw [pathOf, List.flatMap_cons, List.cons_append, pieces_slash]
      cases rest with
      | nil => rw [List.flatMap_nil, List.append_nil, pieces_word hs]
      | cons t rest =>
          rw [pathOf, List.flatMap_cons, List.cons_append, pieces_slash, List.cons.injEq] at hrest
          rw [List.flatMap_cons, List.cons_append, pieces_word_slash hs, hrest.2]

theorem pathOf_inj {parts parts' : List JsString} (h : ∀ s ∈ parts, 47 ∉ s)
    (h' : ∀ s ∈ parts', 47 ∉ s) (heq : pathOf parts = pathOf parts') : parts = parts' := by
  have hpieces := congrArg pieces heq
  rw [pieces_pathOf h, pieces_pathOf h', List.cons.injEq] at hpieces
  exact hpieces.2

/-! ## Normalized paths -/

open Observatory (collapseSlashes)

theorem collapseSlashes_word {s : JsString} (hs : 47 ∉ s) (rest : JsString) :
    collapseSlashes (s ++ rest) = s ++ collapseSlashes rest := by
  induction s with
  | nil => rfl
  | cons u s ih =>
      rw [List.mem_cons, not_or] at hs
      rw [List.cons_append, collapseSlashes, if_neg fun h => hs.1 h.1.symm, ih hs.2]
      rfl

/-- A path comes apart at its first slash. -/
theorem exists_word (path : JsString) :
    ∃ s rest, path = s ++ rest ∧ 47 ∉ s ∧ (rest = [] ∨ ∃ more, rest = 47 :: more) := by
  induction path with
  | nil => exact ⟨[], [], rfl, by simp, .inl rfl⟩
  | cons u path ih =>
      by_cases hu : u = 47
      · exact ⟨[], u :: path, rfl, by simp, .inr ⟨path, by rw [hu]⟩⟩
      · obtain ⟨s, rest, rfl, hs, hrest⟩ := ih
        refine ⟨u :: s, rest, rfl, ?_, hrest⟩
        rw [List.mem_cons, not_or]
        exact ⟨fun heq => hu heq.symm, hs⟩

theorem getLast?_word {s : JsString} (hs : 47 ∉ s) (hne : s ≠ []) :
    (47 :: s).getLast? ≠ some 47 := by
  intro hlast
  rw [List.getLast?_cons, Option.some.injEq] at hlast
  cases hs' : s.getLast? with
  | none => exact hne (List.getLast?_eq_none_iff.1 hs')
  | some u =>
      rw [hs', Option.getD_some] at hlast
      exact hs (hlast ▸ List.mem_of_getLast? hs')

/-- A rooted path without repeated slashes is its segments, and a slash where it ended in one. -/
theorem collapseSlashes_rooted (n : ℕ) : ∀ path : JsString, path.length ≤ n →
    collapseSlashes (47 :: path) =
      pathOf (segments path) ++ if (47 :: path).getLast? = some 47 then [47] else [] := by
  induction n with
  | zero =>
      intro path hlength
      rw [List.length_eq_zero_iff.1 (Nat.le_zero.1 hlength)]
      rfl
  | succ n ih =>
      intro path hlength
      obtain ⟨s, rest, rfl, hs, hrest⟩ := exists_word path
      rcases hrest with rfl | ⟨more, rfl⟩
      · rw [List.append_nil]
        by_cases hne : s = []
        · subst hne
          rfl
        · have hhead : s.head? ≠ some 47 := fun h => hs (List.mem_of_mem_head? h)
          rw [collapseSlashes, if_neg fun h => hhead h.2, if_neg (getLast?_word hs hne),
            segments_word hs hne]
          have hcollapsed := collapseSlashes_word hs []
          rw [List.append_nil] at hcollapsed
          rw [hcollapsed]
          simp [pathOf, collapseSlashes]
      · have hmore : more.length ≤ n := by
          rw [List.length_append, List.length_cons] at hlength
          omega
        have hih := ih more hmore
        by_cases hne : s = []
        · subst hne
          rw [List.nil_append, collapseSlashes, if_pos ⟨rfl, rfl⟩, hih, segments_slash]
          simp [List.getLast?_cons]
        · have hhead : (s ++ 47 :: more).head? ≠ some 47 := by
            cases s with
            | nil => exact absurd rfl hne
            | cons u s => exact fun h => hs (Option.some.inj h ▸ List.mem_cons_self ..)
          have hlast : (47 :: (s ++ 47 :: more)).getLast? = (47 :: more).getLast? := by
            rw [← List.cons_append, List.getLast?_append]
            simp [List.getLast?_cons]
          rw [collapseSlashes, if_neg fun h => hhead h.2, collapseSlashes_word hs, hih, hlast,
            segments_word_slash hs hne, pathOf, pathOf, List.flatMap_cons]
          simp

/-- What a segment ends in. -/
def EndsLine (s : JsString) : Prop := ∃ u ∈ s.getLast?, isLineTerminator u = true

instance (s : JsString) : Decidable (EndsLine s) :=
  inferInstanceAs (Decidable (∃ u ∈ s.getLast?, isLineTerminator u = true))

theorem getLast?_pathOf {parts : List JsString} (h : ∀ s ∈ parts, s ≠ []) :
    (pathOf parts).getLast? = parts.getLast?.bind List.getLast? := by
  induction parts with
  | nil => rfl
  | cons s rest ih =>
      have hrest := ih fun t ht => h t (List.mem_cons_of_mem _ ht)
      rw [pathOf, List.flatMap_cons]
      cases rest with
      | nil =>
          have hs := h s (List.mem_cons_self ..)
          cases hs' : s.getLast? with
          | none => exact absurd (List.getLast?_eq_none_iff.1 hs') hs
          | some u => simp [List.getLast?_cons, hs']
      | cons t rest =>
          rw [pathOf] at hrest
          rw [List.getLast?_append, hrest, List.getLast?_cons_cons]
          have ht := h ((t :: rest).getLast (by simp))
            (List.mem_cons_of_mem _ (List.getLast_mem _))
          rw [List.getLast?_eq_some_getLast (by simp : t :: rest ≠ []), Option.bind_some]
          cases hlast : ((t :: rest).getLast (by simp)).getLast? with
          | none => exact absurd (List.getLast?_eq_none_iff.1 hlast) ht
          | some u => rfl

theorem collapseSlashes_ne_nil : ∀ (u : UInt16) (rest : JsString), collapseSlashes (u :: rest) ≠ []
  | u, [] => by simp [collapseSlashes]
  | u, v :: rest => by
      rw [collapseSlashes]
      split
      · exact collapseSlashes_ne_nil v rest
      · simp

/-- What `normalizeX402DecodedPath` makes of a rooted path: its segments, and behind them an empty
one where there is no other or the last ends in a line terminator. -/
theorem normalizeX402DecodedPath_rooted {path rest : JsString} (h : cutQuery path = 47 :: rest) :
    (normalizeX402DecodedPath path = pathOf (segments rest) ∧ segments rest ≠ []) ∨
      (normalizeX402DecodedPath path = pathOf (segments rest ++ [[]]) ∧
        ∀ s ∈ (segments rest).getLast?, EndsLine s) := by
  have hwords : ∀ s ∈ segments rest, s ≠ [] := fun s hs => (of_mem_segments hs).2
  have hlast := getLast?_pathOf hwords
  have hcollapsed := collapseSlashes_rooted rest.length rest (le_refl _)
  have hthere : segments rest ≠ [] → pathOf (segments rest) ≠ [] := by
    intro hne heq
    rw [heq] at hlast
    cases hparts : segments rest with
    | nil => exact hne hparts
    | cons s more =>
        rw [hparts, pathOf, List.flatMap_cons, List.cons_append] at heq
        cases heq
  rw [normalizeX402DecodedPath, h]
  by_cases hslash : (47 :: rest).getLast? = some 47
  · rw [if_pos hslash] at hcollapsed
    simp only [hcollapsed, trimSlash, List.getLast?_concat, List.dropLast_concat, true_and]
    split
    · rename_i hkept
      have hne : segments rest ≠ [] := by
        intro hnil
        rw [hlast, hnil] at hkept
        cases hkept
      rw [if_neg (hthere hne)]
      exact .inl ⟨rfl, hne⟩
    · rename_i hkept
      rw [if_neg (by simp)]
      refine .inr ⟨by simp [pathOf], fun s hs => ?_⟩
      cases hu : s.getLast? with
      | none => exact absurd (List.getLast?_eq_none_iff.1 hu) (hwords s (List.mem_of_getLast? hs))
      | some u =>
          refine ⟨u, hu, ?_⟩
          by_contra hline
          apply hkept
          rw [hlast, Option.mem_def.1 hs, Option.bind_some, hu, Option.any_some]
          simpa using hline
  · rw [if_neg hslash, List.append_nil] at hcollapsed
    have hne : segments rest ≠ [] := by
      intro hnil
      rw [hnil] at hcollapsed
      exact collapseSlashes_ne_nil 47 rest hcollapsed
    have hword : (pathOf (segments rest)).getLast? ≠ some 47 := by
      rw [hlast]
      intro hslash'
      obtain ⟨s, hs, hu⟩ := Option.bind_eq_some_iff.1 hslash'
      exact (of_mem_segments (List.mem_of_getLast? hs)).1 (List.mem_of_getLast? hu)
    simp only [hcollapsed, trimSlash, if_neg fun h => hword (And.left h), if_neg (hthere hne)]
    exact .inl ⟨trivial, hne⟩

/-! ## Letter case -/

/-- What is relied on of `String.prototype.toLowerCase`: slashes and line terminators are their own
small letters and end every word, and a word stays one. -/
structure LowerCase where
  fold : JsString → JsString
  fold_nil : fold [] = []
  fold_slash : ∀ s rest, fold (s ++ 47 :: rest) = fold s ++ 47 :: fold rest
  fold_word : ∀ s, 47 ∉ s → 47 ∉ fold s
  fold_ne_nil : ∀ s, s ≠ [] → fold s ≠ []
  fold_line : ∀ s u, isLineTerminator u = true → fold (s ++ [u]) = fold s ++ [u]

/-- A unit in ASCII. -/
def asciiLower (u : UInt16) : UInt16 := if 65 ≤ u ∧ u ≤ 90 then u + 32 else u

/-- The letters of ASCII follow these rules. -/
def LowerCase.ascii : LowerCase where
  fold := List.map asciiLower
  fold_nil := rfl
  fold_slash := fun s rest => by rw [List.map_append]; rfl
  fold_word := by
    intro s hs hmem
    obtain ⟨u, hu, heq⟩ := List.mem_map.1 hmem
    rw [asciiLower] at heq
    split at heq
    · rename_i hcapital
      have hnat : (u + 32).toNat = 47 := by rw [heq]; rfl
      have hlow := UInt16.le_iff_toNat_le.1 hcapital.1
      have hhigh := UInt16.le_iff_toNat_le.1 hcapital.2
      rw [UInt16.toNat_add] at hnat
      simp at hnat hlow hhigh
      omega
    · exact hs (heq ▸ hu)
  fold_ne_nil := fun s hs h => hs (List.map_eq_nil_iff.1 h)
  fold_line := by
    intro s u hu
    rw [List.map_append, List.map_singleton]
    have hsmall : asciiLower u = u := by
      simp only [isLineTerminator, Bool.or_eq_true, decide_eq_true_eq] at hu
      rcases hu with ((rfl | rfl) | rfl) | rfl <;> decide
    rw [hsmall]

namespace LowerCase

variable (F : LowerCase)

theorem fold_rooted (rest : JsString) : F.fold (47 :: rest) = 47 :: F.fold rest := by
  have hslash := F.fold_slash [] rest
  rwa [F.fold_nil, List.nil_append, List.nil_append] at hslash

/-- A path is folded segment by segment. -/
theorem fold_pathOf (parts : List JsString) :
    F.fold (pathOf parts) = pathOf (parts.map F.fold) := by
  induction parts with
  | nil => exact F.fold_nil
  | cons s rest ih =>
      rw [pathOf, List.flatMap_cons, List.cons_append, F.fold_rooted, List.map_cons, pathOf,
        List.flatMap_cons, List.cons_append]
      congr 1
      cases rest with
      | nil => simp
      | cons t rest =>
          rw [pathOf, List.flatMap_cons, List.cons_append, F.fold_rooted, List.map_cons, pathOf,
            List.flatMap_cons, List.cons_append, List.cons.injEq] at ih
          rw [List.flatMap_cons, List.cons_append, F.fold_slash, ih.2, List.map_cons,
            List.flatMap_cons, List.cons_append]

theorem endsLine_fold {s : JsString} (h : EndsLine s) : EndsLine (F.fold s) := by
  obtain ⟨u, hu, hline⟩ := h
  obtain ⟨before, rfl⟩ := List.getLast?_eq_some_iff.1 hu
  refine ⟨u, ?_, hline⟩
  rw [F.fold_line before u hline]
  simp

end LowerCase

/-! ## The resources -/

/-- The path of a paid resource, by its segments. -/
structure PaidPath (F : LowerCase) where
  parts : List JsString
  parts_ne_nil : parts ≠ []
  words : ∀ s ∈ parts, 47 ∉ s ∧ s ≠ []
  lines : ∀ s ∈ parts, ¬ EndsLine (F.fold s)

/-- A path out of a URL. -/
structure RootedPath where
  text : JsString
  rooted : text.head? = some 47

namespace RootedPath

theorem exists_rest (p : RootedPath) : ∃ rest, p.text = 47 :: rest := by
  cases htext : p.text with
  | nil =>
      have hrooted := p.rooted
      rw [htext] at hrooted
      cases hrooted
  | cons u rest =>
      have hrooted := p.rooted
      rw [htext, List.head?_cons, Option.some.injEq] at hrooted
      exact ⟨rest, by rw [hrooted]⟩

theorem exists_cut (p : RootedPath) : ∃ rest, cutQuery p.text = 47 :: rest := by
  obtain ⟨rest, htext⟩ := p.exists_rest
  exact ⟨_, by rw [htext, cutQuery, List.takeWhile_cons_of_pos (by decide)]⟩

end RootedPath

/-- The segments of a path up to `?` or `#`. -/
def pathSegments (path : JsString) : List JsString := segments (cutQuery path)

/-- **A normalized path is that of a resource exactly if it has its segments**, capitals or not:
neither repeated slashes nor one at the end make a difference. -/
theorem fold_normalized_iff {F : LowerCase} (resource : PaidPath F) {path rest : JsString}
    (hcut : cutQuery path = 47 :: rest) :
    F.fold (normalizeX402DecodedPath path) = F.fold (pathOf resource.parts) ↔
      (pathSegments path).map F.fold = resource.parts.map F.fold := by
  have hparts : pathSegments path = segments rest := by
    rw [pathSegments, hcut, segments_slash]
  have hwords : ∀ s ∈ (segments rest).map F.fold, 47 ∉ s := by
    intro s hs
    obtain ⟨t, ht, rfl⟩ := List.mem_map.1 hs
    exact F.fold_word t (of_mem_segments ht).1
  have hresource : ∀ s ∈ resource.parts.map F.fold, 47 ∉ s ∧ s ≠ [] := by
    intro s hs
    obtain ⟨t, ht, rfl⟩ := List.mem_map.1 hs
    exact ⟨F.fold_word t (resource.words t ht).1, F.fold_ne_nil t (resource.words t ht).2⟩
  rw [hparts, F.fold_pathOf]
  rcases normalizeX402DecodedPath_rooted hcut with ⟨hnormal, -⟩ | ⟨hnormal, hline⟩
  · rw [hnormal, F.fold_pathOf]
    exact ⟨fun h => pathOf_inj hwords (fun s hs => (hresource s hs).1) h, fun h => by rw [h]⟩
  · rw [hnormal, F.fold_pathOf]
    constructor
    · -- The resource has no empty segment.
      intro h
      have hwords' : ∀ s ∈ (segments rest ++ [[]]).map F.fold, 47 ∉ s := by
        intro s hs
        rw [List.map_append, List.mem_append] at hs
        rcases hs with hs | hs
        · exact hwords s hs
        · rw [List.map_singleton, List.mem_singleton, F.fold_nil] at hs
          simp [hs]
      have heq := pathOf_inj hwords' (fun s hs => (hresource s hs).1) h
      have hempty : ([] : JsString) ∈ resource.parts.map F.fold := by
        rw [← heq, List.map_append, List.map_singleton, F.fold_nil]
        simp
      exact absurd rfl (hresource [] hempty).2
    · -- Nor does its last segment end in a line terminator.
      intro h
      exfalso
      cases hlast : (segments rest).getLast? with
      | none =>
          rw [List.getLast?_eq_none_iff.1 hlast, List.map_nil] at h
          exact resource.parts_ne_nil (List.map_eq_nil_iff.1 h.symm)
      | some s =>
          have hfold : (resource.parts.map F.fold).getLast? = some (F.fold s) := by
            rw [← h, List.getLast?_map, hlast]
            rfl
          obtain ⟨t, ht, hsame⟩ := List.mem_map.1 (List.mem_of_getLast? hfold)
          have hends := F.endsLine_fold (hline s hlast)
          rw [← hsame] at hends
          exact resource.lines t ht hends

/-- The decoded segments of a rooted path are a rooted path. -/
theorem exists_cut_decodeSegments {path rest : JsString} (h : path = 47 :: rest) :
    ∃ more, cutQuery (decodeSegments path) = 47 :: more := by
  have hempty : decodeSegment [] = [] := rfl
  obtain ⟨piece, others, hpieces⟩ := List.exists_cons_of_ne_nil (pieces_ne_nil rest)
  have hdecoded : ∃ more, decodeSegments path = 47 :: more := by
    rw [decodeSegments, h, pieces_slash, hpieces, List.map_cons, List.map_cons, hempty]
    exact ⟨_, rfl⟩
  obtain ⟨more, hmore⟩ := hdecoded
  exact ⟨_, by rw [hmore, cutQuery, List.takeWhile_cons_of_pos (by decide)]⟩

/-- The two paid resources. -/
structure PaidPaths (F : LowerCase) where
  demo : PaidPath F
  watch : PaidPath F
  demo_text : pathOf demo.parts = js "/demo"

namespace PaidPaths

variable {F : LowerCase}

/-- The resource of a method. -/
def resource? (paths : PaidPaths F) (upperMethod : JsString) : Option (PaidPath F) :=
  if upperMethod = js "GET" then some paths.demo
  else if upperMethod = js "POST" then some paths.watch
  else none

/-- Whether a request names a resource: the path of its URL, with its segments decoded, or the one
that the framework routes by. -/
def Names (resource : PaidPath F) (rawPath frameworkPath : RootedPath) : Prop :=
  (pathSegments (decodeSegments (cutQuery rawPath.text))).map F.fold =
      resource.parts.map F.fold ∨
    (pathSegments frameworkPath.text).map F.fold = resource.parts.map F.fold

end PaidPaths

/-- **No name of a paid resource gets by under another**: a request is taken for one exactly if
the method is that of the resource and one of its paths, cut at the query, has the segments of the
resource, decoded, capitals or not and with whatever slashes between them; and it is the canonical
one only where the path that is routed by is the path of the resource, unit by unit. -/
theorem paid_resource_iff {F : LowerCase} (paths : PaidPaths F) (upperMethod : JsString)
    (rawPath frameworkPath : RootedPath) (found : PaidResourceMatch) :
    classifyPaidResourceRequest F.fold (pathOf paths.watch.parts) upperMethod rawPath.text
        frameworkPath.text = some found ↔
      ∃ resource, paths.resource? upperMethod = some resource ∧
        PaidPaths.Names resource rawPath frameworkPath ∧
          found.canonicalPath = pathOf resource.parts ∧
            (found.canonical = true ↔ frameworkPath.text = pathOf resource.parts) := by
  have hcanonical : (if upperMethod = js "GET" then some (js "/demo")
      else if upperMethod = js "POST" then some (pathOf paths.watch.parts) else none) =
      (paths.resource? upperMethod).map fun resource => pathOf resource.parts := by
    rw [PaidPaths.resource?]
    split
    · rw [Option.map_some, paths.demo_text]
    · split <;> rfl
  obtain ⟨rest, hraw⟩ := rawPath.exists_cut
  obtain ⟨rawRest, hrawCut⟩ := exists_cut_decodeSegments hraw
  obtain ⟨frameworkRest, hframework⟩ := frameworkPath.exists_cut
  rw [classifyPaidResourceRequest]
  simp only [hcanonical]
  cases paths.resource? upperMethod with
  | none => simp
  | some resource =>
      have hnames : (F.fold (normalizeX402RawPath rawPath.text) = F.fold (pathOf resource.parts) ∨
          F.fold (normalizeX402DecodedPath frameworkPath.text) =
            F.fold (pathOf resource.parts)) ↔
          PaidPaths.Names resource rawPath frameworkPath := by
        rw [normalizeX402RawPath, fold_normalized_iff resource hrawCut,
          fold_normalized_iff resource hframework, PaidPaths.Names]
      simp only [Option.map_some, Option.bind_some, Option.some.injEq]
      constructor
      · intro h
        split at h
        · rename_i hthere
          rw [← Option.some.inj h]
          exact ⟨resource, rfl, hnames.1 hthere, rfl, decide_eq_true_iff⟩
        · cases h
      · rintro ⟨_, rfl, hthere, hpath, hsame⟩
        rw [if_pos (hnames.2 hthere)]
        obtain ⟨path, canonical⟩ := found
        simp only at hpath hsame
        subst hpath
        congr 2
        rw [Bool.eq_iff_iff, decide_eq_true_iff, hsame]

theorem demo_words : ∀ s ∈ [js "demo"], 47 ∉ s ∧ s ≠ [] := by decide

theorem demo_lines : ∀ s ∈ [js "demo"], ¬ EndsLine (LowerCase.ascii.fold s) := by decide

theorem demo_pathOf : pathOf [js "demo"] = js "/demo" := by decide

theorem spike_words : ∀ s ∈ [js "spike", js "watch"], 47 ∉ s ∧ s ≠ [] := by decide

theorem spike_lines :
    ∀ s ∈ [js "spike", js "watch"], ¬ EndsLine (LowerCase.ascii.fold s) := by decide

/-- The resources on the test network. -/
def spikePaths : PaidPaths LowerCase.ascii where
  demo := ⟨[js "demo"], List.cons_ne_nil _ _, demo_words, demo_lines⟩
  watch := ⟨[js "spike", js "watch"], List.cons_ne_nil _ _, spike_words, spike_lines⟩
  demo_text := demo_pathOf

theorem main_words : ∀ s ∈ [js "v1", js "watch"], 47 ∉ s ∧ s ≠ [] := by decide

theorem main_lines : ∀ s ∈ [js "v1", js "watch"], ¬ EndsLine (LowerCase.ascii.fold s) := by
  decide

/-- The resources on the main network. -/
def mainPaths : PaidPaths LowerCase.ascii where
  demo := ⟨[js "demo"], List.cons_ne_nil _ _, demo_words, demo_lines⟩
  watch := ⟨[js "v1", js "watch"], List.cons_ne_nil _ _, main_words, main_lines⟩
  demo_text := demo_pathOf

/-- Slashes, capitals and an escape make another name of the same resource; on the main network
the request is routed by the path of the resource itself. -/
theorem paid_resource_iff_alias :
    (∃ resource, spikePaths.resource? (js "POST") = some resource ∧
      PaidPaths.Names resource ⟨js "//SPIKE///w%61tch/", rfl⟩ ⟨js "/SPIKE/watch", rfl⟩ ∧
        js "/spike/watch" = pathOf resource.parts ∧
          (false = true ↔ js "/SPIKE/watch" = pathOf resource.parts)) ∧
      ∃ resource, mainPaths.resource? (js "POST") = some resource ∧
        PaidPaths.Names resource ⟨js "/V1/w%41tch", rfl⟩ ⟨js "/v1/watch", rfl⟩ ∧
          js "/v1/watch" = pathOf resource.parts ∧
            (true = true ↔ js "/v1/watch" = pathOf resource.parts) :=
  ⟨(paid_resource_iff spikePaths (js "POST") ⟨js "//SPIKE///w%61tch/", rfl⟩
      ⟨js "/SPIKE/watch", rfl⟩ ⟨js "/spike/watch", false⟩).1 (by decide),
    (paid_resource_iff mainPaths (js "POST") ⟨js "/V1/w%41tch", rfl⟩
      ⟨js "/v1/watch", rfl⟩ ⟨js "/v1/watch", true⟩).1 (by decide)⟩

end RoundWatch
