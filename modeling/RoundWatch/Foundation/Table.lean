import Mathlib.Data.List.Nodup
import Mathlib.Tactic.Common

/-!
# Tables

A database table as the list of its rows: `UPDATE … WHERE` rewrites the rows a
predicate selects and says how many there were, `INSERT` appends, and a unique
index is a partial key that no two rows share.  A row whose key is `none` (SQL
`NULL`, or a row outside a partial index) conflicts with nothing.
-/

namespace Table

variable {ρ κ : Type*}

/-- `UPDATE … SET f WHERE p`. -/
def updateWhere (p : ρ → Bool) (f : ρ → ρ) (rows : List ρ) : List ρ :=
  rows.map fun r => if p r then f r else r

/-- How many rows a predicate selects. -/
def changes (p : ρ → Bool) (rows : List ρ) : ℕ := rows.countP p

/-- No two rows share a key. -/
def UniqueOn (key : ρ → Option κ) (rows : List ρ) : Prop := (rows.filterMap key).Nodup

instance [DecidableEq κ] (key : ρ → Option κ) (rows : List ρ) : Decidable (UniqueOn key rows) :=
  inferInstanceAs (Decidable (List.Nodup _))

/-- Lists related item by item: every item on the left has a partner on the right. -/
theorem exists_of_forall₂_left {σ : Type*} {R : ρ → σ → Prop} {xs : List ρ} {ys : List σ}
    (h : List.Forall₂ R xs ys) {x : ρ} (hx : x ∈ xs) : ∃ y ∈ ys, R x y := by
  induction h with
  | nil => simp at hx
  | @cons a b xs ys hab _ ih =>
      rcases List.mem_cons.1 hx with rfl | hx
      · exact ⟨b, List.mem_cons_self .., hab⟩
      · obtain ⟨y, hy, hxy⟩ := ih hx
        exact ⟨y, List.mem_cons_of_mem _ hy, hxy⟩

/-- And every item on the right one on the left. -/
theorem exists_of_forall₂_right {σ : Type*} {R : ρ → σ → Prop} {xs : List ρ} {ys : List σ}
    (h : List.Forall₂ R xs ys) {y : σ} (hy : y ∈ ys) : ∃ x ∈ xs, R x y :=
  exists_of_forall₂_left (List.Forall₂.flip (R := flip R) h) hy

/-- Row by row, a table became another: each row stayed or changed as `R` allows. -/
def Rewrites (R : ρ → ρ → Prop) (rows rows' : List ρ) : Prop :=
  List.Forall₂ (fun r r' => r' = r ∨ R r r') rows rows'

theorem updateWhere_eq_self {p : ρ → Bool} {f : ρ → ρ} {rows : List ρ}
    (h : ∀ r ∈ rows, p r = false) : updateWhere p f rows = rows := by
  rw [updateWhere]
  conv_rhs => rw [← List.map_id rows]
  refine List.map_congr_left fun r hr => ?_
  simp [h r hr]

theorem mem_updateWhere {p : ρ → Bool} {f : ρ → ρ} {rows : List ρ} {r' : ρ} :
    r' ∈ updateWhere p f rows ↔
      (∃ r ∈ rows, p r = true ∧ r' = f r) ∨ (r' ∈ rows ∧ p r' = false) := by
  simp only [updateWhere, List.mem_map]
  constructor
  · rintro ⟨r, hr, rfl⟩
    by_cases hp : p r = true
    · exact Or.inl ⟨r, hr, hp, by simp [hp]⟩
    · exact Or.inr ⟨by simpa [hp] using hr, by simp [hp]⟩
  · rintro (⟨r, hr, hp, rfl⟩ | ⟨hr, hp⟩)
    · exact ⟨r, hr, by simp [hp]⟩
    · exact ⟨r', hr, by simp [hp]⟩

theorem changes_eq_zero {p : ρ → Bool} {rows : List ρ} :
    changes p rows = 0 ↔ ∀ r ∈ rows, p r = false := by
  simp [changes, List.countP_eq_zero]

/-! ## Rewriting rows -/

theorem Rewrites.refl (R : ρ → ρ → Prop) (rows : List ρ) : Rewrites R rows rows :=
  List.forall₂_same.2 fun _ _ => Or.inl rfl

/-- An `UPDATE` changes the rows it selects and no other. -/
theorem rewrites_updateWhere {R : ρ → ρ → Prop} {p : ρ → Bool} {f : ρ → ρ} {rows : List ρ}
    (h : ∀ r ∈ rows, p r = true → R r (f r)) : Rewrites R rows (updateWhere p f rows) := by
  refine List.forall₂_map_right_iff.2 (List.forall₂_same.2 fun r hr => ?_)
  by_cases hp : p r = true
  · simp only [hp, if_true]
    exact Or.inr (h r hr hp)
  · simp [hp]

/-- What became of a row. -/
theorem Rewrites.exists_of_mem {R : ρ → ρ → Prop} {rows rows' : List ρ}
    (h : Rewrites R rows rows') {r : ρ} (hr : r ∈ rows) : ∃ r' ∈ rows', r' = r ∨ R r r' :=
  exists_of_forall₂_left h hr

/-- Where a row came from. -/
theorem Rewrites.exists_of_mem_right {R : ρ → ρ → Prop} {rows rows' : List ρ}
    (h : Rewrites R rows rows') {r' : ρ} (hr' : r' ∈ rows') : ∃ r ∈ rows, r' = r ∨ R r r' :=
  exists_of_forall₂_right h hr'

/-- What a row became is a row of the new table. -/
theorem Rewrites.mem_right {R : ρ → ρ → Prop} {rows rows' : List ρ} (h : Rewrites R rows rows') :
    Rewrites (fun r r' => R r r' ∧ r' ∈ rows') rows rows' := by
  induction h with
  | nil => exact List.Forall₂.nil
  | @cons a b rows rows' hab _ ih =>
      refine List.Forall₂.cons (hab.imp_right fun h => ⟨h, List.mem_cons_self ..⟩) ?_
      exact ih.imp fun _ _ => Or.imp_right (And.imp_right (List.mem_cons_of_mem _))

/-- A rewriting that turns no row on does not raise a count. -/
theorem Rewrites.countP_le {R : ρ → ρ → Prop} {q : ρ → Bool} {rows rows' : List ρ}
    (h : Rewrites R rows rows') (hq : ∀ r ∈ rows, ∀ r', R r r' → q r' = true → q r = true) :
    rows'.countP q ≤ rows.countP q := by
  induction h with
  | nil => exact Nat.le_refl _
  | @cons a b rows rows' hab _ ih =>
      have hhead : q b = true → q a = true := by
        rcases hab with rfl | hab
        · exact id
        · exact hq a (List.mem_cons_self ..) b hab
      have htail := ih fun r hr => hq r (List.mem_cons_of_mem _ hr)
      rw [List.countP_cons, List.countP_cons]
      by_cases hb : q b = true
      · simp only [hb, hhead hb, if_true]
        omega
      · simp only [hb, Bool.false_eq_true, if_false]
        omega

/-! ## Unique keys -/

theorem uniqueOn_nil (key : ρ → Option κ) : UniqueOn key [] := List.nodup_nil

theorem uniqueOn_cons {key : ρ → Option κ} {r : ρ} {rows : List ρ} :
    UniqueOn key (r :: rows) ↔ (∀ r' ∈ rows, ∀ k, key r = some k → key r' ≠ some k) ∧
      UniqueOn key rows := by
  cases hk : key r with
  | none => simp [UniqueOn, hk]
  | some k =>
      simp only [UniqueOn, List.filterMap_cons, hk, List.nodup_cons, List.mem_filterMap]
      constructor
      · rintro ⟨hnot, hrest⟩
        refine ⟨?_, hrest⟩
        rintro r' hr' k' hk' heq
        cases hk'
        exact hnot ⟨r', hr', heq⟩
      · rintro ⟨hnot, hrest⟩
        refine ⟨?_, hrest⟩
        rintro ⟨r', hr', heq⟩
        exact hnot r' hr' k rfl heq

/-- Rows with the same key are the same row. -/
theorem UniqueOn.eq_of_key {key : ρ → Option κ} {rows : List ρ} (h : UniqueOn key rows)
    {r r' : ρ} (hr : r ∈ rows) (hr' : r' ∈ rows) {k : κ} (hk : key r = some k)
    (hk' : key r' = some k) : r = r' := by
  induction rows with
  | nil => simp at hr
  | cons a rows ih =>
      rw [uniqueOn_cons] at h
      rcases List.mem_cons.1 hr with ha | hrest
      · rcases List.mem_cons.1 hr' with ha' | hrest'
        · rw [ha, ha']
        · exact absurd hk' (h.1 r' hrest' k (ha ▸ hk))
      · rcases List.mem_cons.1 hr' with ha' | hrest'
        · exact absurd hk (h.1 r hrest k (ha' ▸ hk'))
        · exact ih h.2 hrest hrest'

/-- Rewriting rows without touching their keys keeps a key unique. -/
theorem UniqueOn.updateWhere {key : ρ → Option κ} {rows : List ρ} (h : UniqueOn key rows)
    {p : ρ → Bool} {f : ρ → ρ} (hf : ∀ r, key (f r) = key r) :
    UniqueOn key (updateWhere p f rows) := by
  have : ∀ r ∈ rows, (key ∘ fun r => if p r then f r else r) r = key r := by
    intro r _
    simp only [Function.comp_apply]
    split
    · exact hf r
    · rfl
  rw [UniqueOn, Table.updateWhere, List.filterMap_map, List.filterMap_congr this]
  exact h

/-- The row found under its own key is the row. -/
theorem UniqueOn.find?_eq {key : ρ → Option κ} {rows : List ρ} (h : UniqueOn key rows)
    {r : ρ} (hr : r ∈ rows) {k : κ} (hk : key r = some k) {p : ρ → Bool}
    (hp : ∀ r', p r' = true ↔ key r' = some k) : rows.find? p = some r := by
  cases hfind : rows.find? p with
  | none =>
      rw [List.find?_eq_none] at hfind
      exact absurd ((hp r).2 hk) (hfind r hr)
  | some r' =>
      have hmem := List.mem_of_find?_eq_some hfind
      have hkey := (hp r').1 (List.find?_some hfind)
      rw [h.eq_of_key hmem hr hkey hk]

/-- Under a predicate that pins the key, one change means that some row was
selected. -/
theorem UniqueOn.changes_le_one {key : ρ → Option κ} {rows : List ρ} (h : UniqueOn key rows)
    {p : ρ → Bool} {k : κ} (hp : ∀ r, p r = true → key r = some k) : changes p rows ≤ 1 := by
  induction rows with
  | nil => simp [changes]
  | cons a rows ih =>
      rw [uniqueOn_cons] at h
      rw [changes, List.countP_cons]
      by_cases ha : p a = true
      · have hzero : changes p rows = 0 := by
          rw [changes_eq_zero]
          intro r hr
          by_contra hpr
          exact h.1 r hr k (hp a ha) (hp r (by simpa using hpr))
        rw [changes] at hzero
        simp [ha, hzero]
      · have := ih h.2
        rw [changes] at this
        simpa [ha] using this

theorem UniqueOn.changes_eq_one {key : ρ → Option κ} {rows : List ρ} (h : UniqueOn key rows)
    {p : ρ → Bool} {k : κ} (hp : ∀ r, p r = true → key r = some k) :
    changes p rows = 1 ↔ ∃ r ∈ rows, p r = true := by
  have hle := h.changes_le_one hp
  constructor
  · intro h1
    by_contra hno
    have : changes p rows = 0 := by
      rw [changes_eq_zero]
      intro r hr
      by_contra hpr
      exact hno ⟨r, hr, by simpa using hpr⟩
    omega
  · rintro ⟨r, hr, hpr⟩
    have : changes p rows ≠ 0 := by
      rw [Ne, changes_eq_zero]
      intro hall
      exact absurd hpr (by simp [hall r hr])
    omega

/-- Giving one row a key keeps the keys unique exactly when no other row has it. -/
theorem UniqueOn.updateWhere_one {key : ρ → Option κ} {rows : List ρ} (h : UniqueOn key rows)
    {p : ρ → Bool} {f : ρ → ρ} {k : κ} (hone : changes p rows = 1)
    (hf : ∀ r, key (f r) = some k) :
    UniqueOn key (Table.updateWhere p f rows) ↔ ∀ r ∈ rows, p r = false → key r ≠ some k := by
  induction rows with
  | nil => simp [changes] at hone
  | cons a rows ih =>
      rw [uniqueOn_cons] at h
      by_cases ha : p a = true
      · have hzero : changes p rows = 0 := by
          simp only [changes, List.countP_cons, ha, if_true] at hone ⊢
          omega
        have hnone := changes_eq_zero.1 hzero
        have hself : Table.updateWhere p f (a :: rows) = f a :: rows := by
          have hrest : Table.updateWhere p f rows = rows := updateWhere_eq_self hnone
          simpa [Table.updateWhere, ha] using hrest
        rw [hself, uniqueOn_cons]
        constructor
        · rintro ⟨hfresh, -⟩ r hr hp
          rcases List.mem_cons.1 hr with rfl | hr
          · simp [ha] at hp
          · exact hfresh r hr k (hf a)
        · intro hall
          refine ⟨fun r hr k' hk' => ?_, h.2⟩
          rw [hf a] at hk'
          cases hk'
          exact hall r (List.mem_cons_of_mem _ hr) (hnone r hr)
      · have hone' : changes p rows = 1 := by
          simpa [changes, List.countP_cons, ha] using hone
        obtain ⟨r₀, hr₀, hp₀⟩ : ∃ r ∈ rows, p r = true := by
          by_contra hno
          have : changes p rows = 0 := changes_eq_zero.2 fun r hr => by
            by_contra hp
            exact hno ⟨r, hr, by simpa using hp⟩
          omega
        have hcons : Table.updateWhere p f (a :: rows) = a :: Table.updateWhere p f rows := by
          simp [Table.updateWhere, ha]
        rw [hcons, uniqueOn_cons, ih h.2 hone']
        constructor
        · rintro ⟨hfresh, hall⟩ r hr hp
          rcases List.mem_cons.1 hr with rfl | hr
          · have hmem : f r₀ ∈ Table.updateWhere p f rows :=
              mem_updateWhere.2 (Or.inl ⟨r₀, hr₀, hp₀, rfl⟩)
            exact fun hk => hfresh (f r₀) hmem k hk (hf r₀)
          · exact hall r hr hp
        · intro hall
          refine ⟨fun r' hr' k' hk' => ?_, fun r hr => hall r (List.mem_cons_of_mem _ hr)⟩
          rcases mem_updateWhere.1 hr' with ⟨r, -, -, rfl⟩ | ⟨hr, -⟩
          · rw [hf r]
            rintro ⟨rfl⟩
            exact hall a List.mem_cons_self (by simpa using ha) hk'
          · exact h.1 r' hr k' hk'

end Table
