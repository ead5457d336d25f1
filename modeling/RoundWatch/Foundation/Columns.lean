import Mathlib.Data.List.Basic
import Mathlib.Logic.Function.Basic
import Mathlib.Tactic.Common

/-!
# Tables that grow columns

A table is the names of its columns and its rows, each a value for every column.  What it
says is what its rows say, with the default of a column that is not there yet: added now,
the column would have that value in every row.

* `addColumn` — `ALTER TABLE … ADD COLUMN`, unless the column is there;
* `select` — a new table with the given columns of another;
* `contents` — what a table says.  No column that is added changes it.
-/

/-- The columns of a table and its rows.  What a row says of a name that is not a column
is never read. -/
structure ColumnTable (κ υ : Type*) where
  columns : List κ
  rows : List (κ → υ)

namespace ColumnTable

variable {κ υ : Type*} [DecidableEq κ] (default : κ → υ) (t : ColumnTable κ υ)

/-- What a row says of a column, or would say if it were added. -/
def read (row : κ → υ) (c : κ) : υ := if c ∈ t.columns then row c else default c

/-- What a table says. -/
def contents : List (κ → υ) := t.rows.map (t.read default)

/-- `ALTER TABLE … ADD COLUMN`, where the column is missing. -/
def addColumn (c : κ) : ColumnTable κ υ :=
  if c ∈ t.columns then t
  else ⟨t.columns ++ [c], t.rows.map fun row => Function.update row c (default c)⟩

/-- `INSERT INTO … SELECT` of some columns. -/
def select (columns : List κ) : ColumnTable κ υ :=
  ⟨columns, t.rows.map fun row c => if c ∈ columns then row c else default c⟩

/-- `UPDATE … SET f WHERE p`. -/
def update (p : (κ → υ) → Bool) (f : (κ → υ) → κ → υ) : ColumnTable κ υ :=
  ⟨t.columns, t.rows.map fun row => if p row then f row else row⟩

theorem addColumn_of_mem {c : κ} (h : c ∈ t.columns) : t.addColumn default c = t := if_pos h

theorem mem_addColumn {c c' : κ} :
    c' ∈ (t.addColumn default c).columns ↔ c' ∈ t.columns ∨ c' = c := by
  by_cases h : c ∈ t.columns
  · rw [addColumn_of_mem default t h]
    constructor
    · exact Or.inl
    · rintro (hc | rfl)
      · exact hc
      · exact h
  · simp [addColumn, h]

/-- A row that was added to says what it said. -/
theorem read_addColumn {c : κ} (h : c ∉ t.columns) (row : κ → υ) :
    (t.addColumn default c).read default (Function.update row c (default c)) =
      t.read default row := by
  funext c'
  by_cases hc : c' = c
  · subst hc
    simp [read, mem_addColumn, h]
  · simp [read, mem_addColumn, hc]

/-- **No column that is added changes what a table says.** -/
@[simp] theorem contents_addColumn (c : κ) :
    (t.addColumn default c).contents default = t.contents default := by
  by_cases h : c ∈ t.columns
  · rw [addColumn_of_mem default t h]
  · have hrows : (t.addColumn default c).rows =
        t.rows.map fun row => Function.update row c (default c) := by
      rw [addColumn, if_neg h]
    rw [contents, hrows, List.map_map, contents]
    refine List.map_congr_left ?_
    intro row _
    exact read_addColumn default t h row

/-- A table that has the columns says of them what the new one says. -/
theorem contents_select {columns : List κ} (h : ∀ c ∈ columns, c ∈ t.columns) :
    (t.select default columns).contents default =
      (t.contents default).map fun row c => if c ∈ columns then row c else default c := by
  rw [contents, contents, select, List.map_map, List.map_map]
  refine List.map_congr_left ?_
  intro row _
  funext c
  by_cases hc : c ∈ columns
  · simp [read, hc, h c hc]
  · simp [read, hc]

/-- An update that only reads and writes columns of the table. -/
theorem contents_update {p : (κ → υ) → Bool} {f : (κ → υ) → κ → υ}
    (hp : ∀ row, p (t.read default row) = p row)
    (hf : ∀ row, t.read default (f row) = f (t.read default row)) :
    (t.update p f).contents default =
      (t.contents default).map fun row => if p row then f row else row := by
  rw [contents, contents, update, List.map_map, List.map_map]
  refine List.map_congr_left ?_
  intro row _
  have hread : (t.update p f).read default = t.read default := rfl
  simp only [Function.comp_apply, hp]
  split
  · exact hf row
  · rfl

end ColumnTable
