import RoundWatch.Observatory.Values

/-!
# Checks and shapes

Every part of the pipeline checks a value with its own copy of the same few checks, and
copies the fields it knows.  A check gives back what it accepts, so what passed one stage
passes the next.

* `count`, `milliseconds`, `timestamp`, `nullable` — the checks;
* `project`, `object` — the copy of an object, by a list of fields and their checks;
* `Feeds` — one check accepts what another lets through: `feeds_object`.
-/

namespace RoundWatch.Observatory

open JsText Dates

/-- A check gives back the value that it accepts, and throws otherwise. -/
abbrev Check := Plain → Option Plain

/-! ## Checks of single values -/

def boolean : Check
  | .bool b => some (.bool b)
  | _ => none

/-- `count`: a safe integer that is not negative. -/
def count : Check
  | .number n => if n.isSafeInteger && n.nonnegative then some (.number n) else none
  | _ => none

/-- `milliseconds`: finite and not negative. -/
def milliseconds : Check
  | .number n => if n.isFinite && n.nonnegative then some (.number n) else none
  | _ => none

/-- `timestamp`. -/
def timestamp : Check
  | .string s => if isIsoUtc s then some (.string s) else none
  | _ => none

/-- `isoUtc` of the serializer, which has a bound on the length. -/
def isoUtc : Check
  | .string s => if s.length ≤ 40 && isIsoUtc s then some (.string s) else none
  | _ => none

/-- `text`. -/
def textOf (pattern : JsString → Bool) (maximum : ℕ) : Check
  | .string s => if s.length ≤ maximum && pattern s then some (.string s) else none
  | _ => none

/-- `enumeration`, of texts. -/
def enumeration (values : List String) : Check
  | .string s => if (values.map js).contains s then some (.string s) else none
  | _ => none

/-- `enumeration(false)`. -/
def onlyFalse : Check
  | .bool false => some (.bool false)
  | _ => none

def nullable (check : Check) : Check
  | .null => some .null
  | v => check v

/-! ## Shapes -/

/-- The fields of an object, and their checks. -/
abbrev Shape := List (String × Check)

def Shape.names (shape : Shape) : List JsString := shape.map fun p => js p.1

/-- The fields of a shape, read one by one. -/
def readFields (read : Plain → String → Option Plain) :
    Shape → Plain → Option (List (JsString × Plain))
  | [], _ => some []
  | (name, check) :: shape, v =>
      (read v name).bind fun w =>
      (check w).bind fun w =>
      (readFields read shape v).map fun fields => (js name, w) :: fields

/-- `{ name: check(source.name), … }`. -/
def project (shape : Shape) : Check := fun v => (readFields Plain.get shape v).map .object

/-- `object`: the codec of a schema, which reads own properties only. -/
def object (shape : Shape) : Check := fun v => (readFields Plain.own shape v).map .object

/-! ## One check behind another -/

/-- What `f` lets through is accepted by `g`, and not changed. -/
def Feeds (f g : Check) : Prop := ∀ v w, f v = some w → g w = some w

/-- A check whose result has to meet a condition as a whole. -/
def Check.guarded (check : Check) (condition : Plain → Bool) : Check :=
  fun v => (check v).filter condition

theorem Check.guarded_eq_some {check : Check} {condition : Plain → Bool} {v w : Plain} :
    check.guarded condition v = some w ↔ check v = some w ∧ condition w = true :=
  Option.filter_eq_some_iff

theorem Feeds.of_guarded {f g : Check} (h : Feeds f g) (condition : Plain → Bool) :
    Feeds (f.guarded condition) g :=
  fun v w hw => h v w (Check.guarded_eq_some.1 hw).1

theorem Feeds.guarded {f g : Check} (h : Feeds f g) (condition : Plain → Bool) :
    Feeds (f.guarded condition) (g.guarded condition) := by
  intro v w hw
  obtain ⟨hf, hcondition⟩ := Check.guarded_eq_some.1 hw
  exact Check.guarded_eq_some.2 ⟨h v w hf, hcondition⟩

theorem feeds_boolean : Feeds boolean boolean := by
  intro v w h
  cases v with
  | bool b => cases h; rfl
  | _ => cases h

theorem feeds_count : Feeds count count := by
  intro v w h
  cases v with
  | number n =>
    simp only [count] at h
    split at h
    · next hn => cases h; exact if_pos hn
    · cases h
  | _ => cases h

theorem feeds_milliseconds : Feeds milliseconds milliseconds := by
  intro v w h
  cases v with
  | number n =>
    simp only [milliseconds] at h
    split at h
    · next hn => cases h; exact if_pos hn
    · cases h
  | _ => cases h

theorem timestamp_eq_some {v w : Plain} :
    timestamp v = some w ↔ ∃ s, v = .string s ∧ w = .string s ∧ isIsoUtc s = true := by
  constructor
  · intro h
    cases v with
    | string s =>
      simp only [timestamp] at h
      split at h
      · next hs => cases h; exact ⟨s, rfl, rfl, hs⟩
      · cases h
    | _ => cases h
  · rintro ⟨s, rfl, rfl, hs⟩
    exact if_pos hs

theorem feeds_timestamp : Feeds timestamp timestamp := by
  intro v w h
  obtain ⟨s, -, rfl, hs⟩ := timestamp_eq_some.1 h
  exact timestamp_eq_some.2 ⟨s, rfl, rfl, hs⟩

theorem isoUtc_of_isIsoUtc {s : JsString} (h : isIsoUtc s = true) :
    isoUtc (.string s) = some (.string s) := by
  have hlength := length_le_of_isIsoUtc h
  rw [isoUtc, if_pos]
  simp only [h, Bool.and_true, decide_eq_true_eq]
  omega

/-- No timestamp is too long for the serializer. -/
theorem feeds_isoUtc : Feeds timestamp isoUtc := by
  intro v w h
  obtain ⟨s, -, rfl, hs⟩ := timestamp_eq_some.1 h
  exact isoUtc_of_isIsoUtc hs

theorem Feeds.nullable {f g : Check} (h : Feeds f g) : Feeds (nullable f) (nullable g) := by
  intro v w hw
  cases w with
  | null => rfl
  | _ =>
    cases v with
    | null => cases hw
    | _ => exact h _ _ hw

/-! ### Objects -/

theorem lookup_append_cons {before after : List (JsString × Plain)} {name : JsString} (v : Plain)
    (h : name ∉ before.map Prod.fst) :
    Plain.lookup (before ++ (name, v) :: after) name = some v := by
  induction before with
  | nil => simp [Plain.lookup]
  | cons p before ih =>
    simp only [List.map_cons, List.mem_cons, not_or] at h
    have hne : (p.1 == name) = false := by simpa using fun heq => h.1 heq.symm
    simp only [Plain.lookup, List.cons_append, List.find?_cons, hne]
    exact ih h.2

/-- The fields have the names of the shape, and their checks accept them as they are. -/
def Shape.Accepts (shape : Shape) (fields : List (JsString × Plain)) : Prop :=
  List.Forall₂ (fun p q => js p.1 = q.1 ∧ p.2 q.2 = some q.2) shape fields

/-- Accepted fields are read back, behind fields with other names. -/
theorem readFields_accepted {read : Plain → String → Option Plain}
    (hread : ∀ fields name v, Plain.lookup fields (js name) = some v →
      read (.object fields) name = some v)
    {shape : Shape} {fields : List (JsString × Plain)} (h : shape.Accepts fields) :
    ∀ before : List (JsString × Plain), (before.map Prod.fst ++ shape.names).Nodup →
      readFields read shape (.object (before ++ fields)) = some fields := by
  induction h with
  | nil => intro before _; rfl
  | @cons p q shape fields hp _ ih =>
    intro before hnodup
    obtain ⟨name, check⟩ := p
    obtain ⟨name', w⟩ := q
    obtain ⟨rfl, hcheck⟩ : js name = name' ∧ check w = some w := hp
    have hnew : js name ∉ before.map Prod.fst := fun hmem =>
      (List.nodup_append.1 hnodup).2.2 _ hmem _ (List.mem_cons_self ..) rfl
    have hnodup' : ((before ++ [(js name, w)]).map Prod.fst ++ Shape.names shape).Nodup := by
      simpa [Shape.names] using hnodup
    have hrest := ih (before ++ [(js name, w)]) hnodup'
    rw [List.append_assoc, List.singleton_append] at hrest
    rw [readFields, hread _ _ _ (lookup_append_cons w hnew), Option.bind_some, hcheck,
      Option.bind_some, hrest, Option.map_some]

/-- The shapes have the same fields, and the checks of the one feed those of the other. -/
def Shape.Feeds (shape shape' : Shape) : Prop :=
  List.Forall₂ (fun p q => p.1 = q.1 ∧ Observatory.Feeds p.2 q.2) shape shape'

/-- What one shape read, the other accepts. -/
theorem Shape.Feeds.accepts {read : Plain → String → Option Plain} {shape shape' : Shape}
    (h : shape.Feeds shape') {v : Plain} {fields : List (JsString × Plain)}
    (hfields : readFields read shape v = some fields) : shape'.Accepts fields := by
  induction h generalizing fields with
  | nil => cases hfields; exact .nil
  | @cons p q shape shape' hp _ ih =>
    obtain ⟨name, check⟩ := p
    obtain ⟨name', check'⟩ := q
    obtain ⟨rfl, hfeeds⟩ : name = name' ∧ Observatory.Feeds check check' := hp
    obtain ⟨w, -, hbehind⟩ := Option.bind_eq_some_iff.1 hfields
    obtain ⟨w', hw', hbehind⟩ := Option.bind_eq_some_iff.1 hbehind
    obtain ⟨rest, hrest, rfl⟩ := Option.map_eq_some_iff.1 hbehind
    exact .cons ⟨rfl, hfeeds _ _ hw'⟩ (ih hrest)

theorem Shape.Feeds.names_eq {shape shape' : Shape} (h : shape.Feeds shape') :
    shape'.names = shape.names := by
  induction h with
  | nil => rfl
  | cons hp _ ih =>
    simp only [Shape.names, List.map_cons] at ih ⊢
    rw [ih, hp.1]

theorem own_of_lookup {fields : List (JsString × Plain)} {name : String} {v : Plain}
    (h : Plain.lookup fields (js name) = some v) : Plain.own (.object fields) name = some v := h

theorem get_of_lookup {fields : List (JsString × Plain)} {name : String} {v : Plain}
    (h : Plain.lookup fields (js name) = some v) : Plain.get (.object fields) name = some v := by
  rw [Plain.get, own_of_lookup h, Option.getD_some]
  · simp
  · simp

/-- An object is accepted when its fields are. -/
theorem object_accepted {shape : Shape} {fields : List (JsString × Plain)}
    (h : shape.Accepts fields)
    (hnodup : shape.names.Nodup) : object shape (.object fields) = some (.object fields) := by
  have hread := readFields_accepted (fun _ _ _ => own_of_lookup) h [] hnodup
  rw [List.nil_append] at hread
  rw [object, hread, Option.map_some]

theorem project_accepted {shape : Shape} {fields : List (JsString × Plain)}
    (h : shape.Accepts fields) (hnodup : shape.names.Nodup) :
    project shape (.object fields) = some (.object fields) := by
  have hread := readFields_accepted (fun _ _ _ => get_of_lookup) h [] hnodup
  rw [List.nil_append] at hread
  rw [project, hread, Option.map_some]

/-- **What was projected passes the codec.** -/
theorem feeds_object {shape shape' : Shape} (h : shape.Feeds shape') (hnodup : shape.names.Nodup) :
    Feeds (project shape) (object shape') := by
  intro v w hw
  obtain ⟨fields, hfields, rfl⟩ := Option.map_eq_some_iff.1 hw
  exact object_accepted (h.accepts hfields) (h.names_eq ▸ hnodup)

/-- It can be projected again, too. -/
theorem feeds_project {shape shape' : Shape} (h : shape.Feeds shape') (hnodup : shape.names.Nodup) :
    Feeds (project shape) (project shape') := by
  intro v w hw
  obtain ⟨fields, hfields, rfl⟩ := Option.map_eq_some_iff.1 hw
  exact project_accepted (h.accepts hfields) (h.names_eq ▸ hnodup)

/-! ### Values that JSON can say -/

/-- What the check lets through has a text. -/
def YieldsJson (f : Check) : Prop := ∀ v w, f v = some w → w.isJson = true

theorem yieldsJson_boolean : YieldsJson boolean := by
  intro v w h
  cases v with
  | bool b => cases h; rfl
  | _ => cases h

theorem yieldsJson_onlyFalse : YieldsJson onlyFalse := by
  intro v w h
  unfold onlyFalse at h
  split at h
  · cases h; rfl
  · cases h

theorem JsNumber.isFinite_of_isSafeInteger {n : JsNumber} (h : n.isSafeInteger = true) :
    n.isFinite = true := by
  cases n with
  | finite negative d => rfl
  | _ => cases h

theorem yieldsJson_count : YieldsJson count := by
  intro v w h
  cases v with
  | number n =>
    simp only [count] at h
    split at h
    · next hn =>
      cases h
      rw [Bool.and_eq_true] at hn
      rw [Plain.isJson]
      exact JsNumber.isFinite_of_isSafeInteger hn.1
    · cases h
  | _ => cases h

theorem yieldsJson_milliseconds : YieldsJson milliseconds := by
  intro v w h
  cases v with
  | number n =>
    simp only [milliseconds] at h
    split at h
    · next hn =>
      cases h
      rw [Bool.and_eq_true] at hn
      rw [Plain.isJson]
      exact hn.1
    · cases h
  | _ => cases h

/-- Checks of texts. -/
theorem yieldsJson_of_string {f : Check} (h : ∀ v w, f v = some w → ∃ s, w = .string s) :
    YieldsJson f := by
  intro v w hw
  obtain ⟨s, rfl⟩ := h v w hw
  rfl

theorem yieldsJson_isoUtc : YieldsJson isoUtc := by
  refine yieldsJson_of_string fun v w h => ?_
  unfold isoUtc at h
  split at h
  · split at h
    · exact ⟨_, (Option.some.inj h).symm⟩
    · cases h
  · cases h

theorem yieldsJson_textOf (pattern : JsString → Bool) (maximum : ℕ) :
    YieldsJson (textOf pattern maximum) := by
  refine yieldsJson_of_string fun v w h => ?_
  unfold textOf at h
  split at h
  · split at h
    · exact ⟨_, (Option.some.inj h).symm⟩
    · cases h
  · cases h

theorem yieldsJson_enumeration (values : List String) : YieldsJson (enumeration values) := by
  refine yieldsJson_of_string fun v w h => ?_
  unfold enumeration at h
  split at h
  · split at h
    · exact ⟨_, (Option.some.inj h).symm⟩
    · cases h
  · cases h

theorem YieldsJson.nullable {f : Check} (h : YieldsJson f) : YieldsJson (nullable f) := by
  intro v w hw
  cases v with
  | null => cases hw; rfl
  | _ => exact h _ _ hw

theorem YieldsJson.guarded {f : Check} (h : YieldsJson f) (condition : Plain → Bool) :
    YieldsJson (f.guarded condition) :=
  fun v w hw => h v w (Check.guarded_eq_some.1 hw).1

theorem readFields_json {read : Plain → String → Option Plain} {shape : Shape}
    (h : ∀ p ∈ shape, YieldsJson p.2) {v : Plain} :
    ∀ fields, readFields read shape v = some fields → Plain.fieldsAreJson fields = true := by
  induction shape with
  | nil => intro fields hread; cases hread; rfl
  | cons p shape ih =>
    intro fields hread
    obtain ⟨w, -, hread⟩ := Option.bind_eq_some_iff.1 hread
    obtain ⟨w', hw', hread⟩ := Option.bind_eq_some_iff.1 hread
    obtain ⟨rest, hrest, rfl⟩ := Option.map_eq_some_iff.1 hread
    rw [Plain.fieldsAreJson, h p (List.mem_cons_self ..) _ _ hw',
      ih (fun q hq => h q (List.mem_cons_of_mem _ hq)) rest hrest]
    rfl

theorem yieldsJson_object {shape : Shape} (h : ∀ p ∈ shape, YieldsJson p.2) :
    YieldsJson (object shape) := by
  intro v w hw
  obtain ⟨fields, hfields, rfl⟩ := Option.map_eq_some_iff.1 hw
  rw [Plain.isJson]
  exact readFields_json h fields hfields

end RoundWatch.Observatory
