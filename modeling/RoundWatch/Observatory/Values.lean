import RoundWatch.Foundation.Decimals

/-!
# Plain values

The monitoring code trusts no type: it reads numbers, texts and fields out of values that
may be anything.

* `Plain` — the values of the language without functions and prototypes;
* `Plain.get`, `Plain.own` — a property that is read, and one that is the value's own;
* `stringify`, `parse` — `JSON.stringify` and `JSON.parse`;
* `parse_stringify` — what comes back of a value: all of it, but every zero is positive.
-/

namespace RoundWatch.Observatory

open JsText JsonText Decimals

inductive JsNumber where
  | nan
  | infinite (negative : Bool)
  | finite (negative : Bool) (magnitude : Decimal)
  deriving DecidableEq

namespace JsNumber

/-- `Number.isFinite`. -/
def isFinite : JsNumber → Bool
  | .finite _ _ => true
  | _ => false

/-- `value >= 0`, which `-0` is, too. -/
def nonnegative : JsNumber → Bool
  | .nan => false
  | .infinite negative => !negative
  | .finite negative d => !negative || decide (d = 0)

/-- `Math.trunc`, on a finite number. -/
def trunc : JsNumber → ℤ
  | .finite true d => -(d.floor : ℤ)
  | .finite false d => d.floor
  | _ => 0

/-- `Number.isSafeInteger`. -/
def isSafeInteger : JsNumber → Bool
  | .finite _ d => d.isInteger && decide (d.floor ≤ 9007199254740991)
  | _ => false

/-- `value === 0`. -/
def isZero : JsNumber → Bool
  | .finite _ d => decide (d = 0)
  | _ => false

/-- The number with a positive zero in place of a negative one. -/
def unsignZero : JsNumber → JsNumber
  | .finite negative d => .finite (negative && decide (d ≠ 0)) d
  | n => n

end JsNumber

inductive Plain where
  | undefined
  | null
  | bool (b : Bool)
  | number (n : JsNumber)
  | string (s : JsString)
  | array (items : List Plain)
  | object (fields : List (JsString × Plain))

/-- What a getter or a clock does when it is called: `none` is a throw. -/
abbrev Outcome := Option Plain

namespace Plain

def lookup (fields : List (JsString × Plain)) (name : JsString) : Option Plain :=
  (fields.find? fun p => p.1 == name).map Prod.snd

/-- The value of an own property, on an object that is not an array. -/
def own : Plain → String → Option Plain
  | .object fields, name => lookup fields (js name)
  | _, _ => none

/-- `value.name`: throws on `undefined` and `null`, and is `undefined` where there is no such
property. -/
def get (v : Plain) (name : String) : Outcome :=
  match v with
  | .undefined | .null => none
  | v => some ((v.own name).getD .undefined)

/-- `Object.hasOwn`. -/
def hasOwn (v : Plain) (name : String) : Bool := (v.own name).isSome

/-- A property of a value that has it. -/
def field (v : Plain) (name : String) : Plain := (v.own name).getD .undefined

def isNull : Plain → Bool
  | .null => true
  | _ => false

def isUndefined : Plain → Bool
  | .undefined => true
  | _ => false

def isObject : Plain → Bool
  | .object _ => true
  | _ => false

def string? : Plain → Option JsString
  | .string s => some s
  | _ => none

/-- `value ?? null`. -/
def orNull (v : Plain) : Plain := if v.isUndefined then .null else v

/-- A text, or `null`. -/
def ofText : Option JsString → Plain
  | some s => .string s
  | none => .null

end Plain

/-! ## JSON -/

/-- Numbers that are none are `null`. -/
def JsNumber.toDoc : JsNumber → JsonDoc JsonNumber
  | .finite negative d => .num (.signed negative d)
  | _ => .null

namespace Plain

mutual

/-- What `JSON.stringify` sees of a value; `undefined` has no text. -/
def toDoc : Plain → Option (JsonDoc JsonNumber)
  | .undefined => none
  | .null => some .null
  | .bool b => some (.bool b)
  | .number n => some n.toDoc
  | .string s => some (.str s)
  | .array items => some (.arr (itemDocs items))
  | .object fields => some (.obj (fieldDocs fields))

/-- An item without a text is `null`. -/
def itemDocs : List Plain → List (JsonDoc JsonNumber)
  | [] => []
  | v :: rest => (toDoc v).getD .null :: itemDocs rest

/-- A field without a text is left out. -/
def fieldDocs : List (JsString × Plain) → List (JsString × JsonDoc JsonNumber)
  | [] => []
  | (name, v) :: rest =>
      match toDoc v with
      | some doc => (name, doc) :: fieldDocs rest
      | none => fieldDocs rest

end

mutual

/-- The value of a document. -/
def ofDoc : JsonDoc JsonNumber → Plain
  | .null => .null
  | .bool b => .bool b
  | .num n => .number (.finite n.negative n.magnitude)
  | .str s => .string s
  | .arr items => .array (ofItems items)
  | .obj fields => .object (ofFields fields)

def ofItems : List (JsonDoc JsonNumber) → List Plain
  | [] => []
  | doc :: rest => ofDoc doc :: ofItems rest

def ofFields : List (JsString × JsonDoc JsonNumber) → List (JsString × Plain)
  | [] => []
  | (name, doc) :: rest => (name, ofDoc doc) :: ofFields rest

end

mutual

/-- Nothing in the value is `undefined`, and every number is finite. -/
def isJson : Plain → Bool
  | .undefined => false
  | .number n => n.isFinite
  | .array items => itemsAreJson items
  | .object fields => fieldsAreJson fields
  | _ => true

def itemsAreJson : List Plain → Bool
  | [] => true
  | v :: rest => isJson v && itemsAreJson rest

def fieldsAreJson : List (JsString × Plain) → Bool
  | [] => true
  | (_, v) :: rest => isJson v && fieldsAreJson rest

end

mutual

/-- The value with a positive zero in place of every negative one. -/
def unsignZeros : Plain → Plain
  | .number n => .number n.unsignZero
  | .array items => .array (unsignItems items)
  | .object fields => .object (unsignFields fields)
  | v => v

def unsignItems : List Plain → List Plain
  | [] => []
  | v :: rest => unsignZeros v :: unsignItems rest

def unsignFields : List (JsString × Plain) → List (JsString × Plain)
  | [] => []
  | (name, v) :: rest => (name, unsignZeros v) :: unsignFields rest

end

/-- `JSON.stringify`. -/
def stringify (v : Plain) : Option JsString := v.toDoc.map (JsonText.stringify jsonNumbers)

/-- `JSON.parse` of a text of `stringify`, whose objects repeat no name. -/
def parse (text : JsString) : Option Plain := (JsonText.parse jsonNumbers text).map ofDoc

theorem ofDoc_signed (negative : Bool) (d : Decimal) :
    ofDoc (.num (.signed negative d)) = .number (JsNumber.finite negative d).unsignZero := by
  unfold JsonNumber.signed
  split
  · next h =>
    subst h
    simp [ofDoc, JsNumber.unsignZero]
  · next h => simp [ofDoc, JsNumber.unsignZero, h]

mutual

/-- A value that JSON can say keeps all but the signs of its zeros. -/
theorem exists_toDoc (v : Plain) (h : v.isJson = true) :
    ∃ doc, v.toDoc = some doc ∧ ofDoc doc = v.unsignZeros := by
  match v with
  | .undefined => cases h
  | .null => exact ⟨_, rfl, rfl⟩
  | .bool _ => exact ⟨_, rfl, rfl⟩
  | .number .nan => cases h
  | .number (.infinite _) => cases h
  | .number (.finite negative d) => exact ⟨_, rfl, ofDoc_signed negative d⟩
  | .string _ => exact ⟨_, rfl, rfl⟩
  | .array items =>
    refine ⟨_, rfl, ?_⟩
    rw [ofDoc, ofItems_itemDocs items h, unsignZeros]
  | .object fields =>
    refine ⟨_, rfl, ?_⟩
    rw [ofDoc, ofFields_fieldDocs fields h, unsignZeros]

theorem ofItems_itemDocs (items : List Plain) (h : itemsAreJson items = true) :
    ofItems (itemDocs items) = unsignItems items := by
  match items with
  | [] => rfl
  | v :: rest =>
    rw [itemsAreJson, Bool.and_eq_true] at h
    obtain ⟨doc, hdoc, hv⟩ := exists_toDoc v h.1
    rw [itemDocs, hdoc, Option.getD_some, ofItems, hv, ofItems_itemDocs rest h.2, unsignItems]

theorem ofFields_fieldDocs (fields : List (JsString × Plain)) (h : fieldsAreJson fields = true) :
    ofFields (fieldDocs fields) = unsignFields fields := by
  match fields with
  | [] => rfl
  | (name, v) :: rest =>
    rw [fieldsAreJson, Bool.and_eq_true] at h
    obtain ⟨doc, hdoc, hv⟩ := exists_toDoc v h.1
    rw [fieldDocs, hdoc, ofFields, hv, ofFields_fieldDocs rest h.2, unsignFields]

end

/-- **What comes back of a value through its text.** -/
theorem parse_stringify {v : Plain} (h : v.isJson = true) :
    ∃ text, v.stringify = some text ∧ parse text = some v.unsignZeros := by
  obtain ⟨doc, hdoc, hv⟩ := exists_toDoc v h
  refine ⟨JsonText.stringify jsonNumbers doc, by rw [stringify, hdoc, Option.map_some], ?_⟩
  rw [parse, JsonText.parse_stringify, Option.map_some, hv]

end Plain

end RoundWatch.Observatory
