import Mathlib.Data.Finmap
import Mathlib.Tactic.Common

/-!
# A registry of objects

A map from keys to objects that change in place, and handles that were taken while a key
named an object.  A key can be given to another object later, so a handle acts only while
its key still names the very object it was taken for.

* `Registry` — the map, and every object it has ever held, by number.
* `Handle.current` — the fence of a handle.
* `Journal` — what a registry is for, in terms of its own: one tenure after the other, each
  with the notes that were made on it while it lasted.
* `Keeps` — the registry is what the journal says; `keeps_enter`, `keeps_write`,
  `keeps_remove` — and it stays so.
* `Moves` — what a stretch of a journal may have done; `moves_enter`, `moves_note`,
  `moves_close`, and `Moves.trans` for one stretch after the other.
-/

/-! ## Registries -/

/-- A map from keys to numbered objects.  No two keys name one object. -/
structure Registry (κ σ : Type*) [DecidableEq κ] where
  held : Finmap fun _ : κ => ℕ
  objects : ℕ → σ
  created : ℕ
  held_lt : ∀ {k n}, held.lookup k = some n → n < created
  held_injective : ∀ {k k' n}, held.lookup k = some n → held.lookup k' = some n → k = k'

namespace Registry

variable {κ σ ω : Type*} [DecidableEq κ]

/-- The object a key names. -/
def get (k : κ) (r : Registry κ σ) : Option ℕ := r.held.lookup k

/-- A registry that holds nothing. -/
def empty (fresh : σ) : Registry κ σ where
  held := ∅
  objects _ := fresh
  created := 0
  held_lt h := by simp at h
  held_injective h := by simp at h

/-- A new object takes the key. -/
def create (fresh : σ) (k : κ) (r : Registry κ σ) : Registry κ σ where
  held := r.held.insert k r.created
  objects := Function.update r.objects r.created fresh
  created := r.created + 1
  held_lt {k' n} h := by
    by_cases hk : k' = k
    · rw [hk, Finmap.lookup_insert] at h
      cases h
      exact Nat.lt_succ_self _
    · rw [Finmap.lookup_insert_of_ne _ hk] at h
      exact Nat.lt_succ_of_lt (r.held_lt h)
  held_injective {k₁ k₂ n} h₁ h₂ := by
    by_cases hk₁ : k₁ = k
    · by_cases hk₂ : k₂ = k
      · rw [hk₁, hk₂]
      · rw [hk₁, Finmap.lookup_insert] at h₁
        rw [Finmap.lookup_insert_of_ne _ hk₂] at h₂
        cases h₁
        exact absurd (r.held_lt h₂) (Nat.lt_irrefl _)
    · rw [Finmap.lookup_insert_of_ne _ hk₁] at h₁
      by_cases hk₂ : k₂ = k
      · rw [hk₂, Finmap.lookup_insert] at h₂
        cases h₂
        exact absurd (r.held_lt h₁) (Nat.lt_irrefl _)
      · rw [Finmap.lookup_insert_of_ne _ hk₂] at h₂
        exact r.held_injective h₁ h₂

/-- The object a key names, made if there is none. -/
def enter (fresh : σ) (k : κ) (r : Registry κ σ) : Registry κ σ × ℕ :=
  match r.get k with
  | some n => (r, n)
  | none => (r.create fresh k, r.created)

/-- An object changes in place. -/
def write (n : ℕ) (s : σ) (r : Registry κ σ) : Registry κ σ :=
  { r with objects := Function.update r.objects n s }

/-- The key is given up; the object stays with who holds it. -/
def remove (k : κ) (r : Registry κ σ) : Registry κ σ where
  held := r.held.erase k
  objects := r.objects
  created := r.created
  held_lt {k' n} h := by
    by_cases hk : k' = k
    · rw [hk, Finmap.lookup_erase] at h
      cases h
    · rw [Finmap.lookup_erase_ne hk] at h
      exact r.held_lt h
  held_injective {k₁ k₂ n} h₁ h₂ := by
    by_cases hk₁ : k₁ = k
    · rw [hk₁, Finmap.lookup_erase] at h₁
      cases h₁
    · by_cases hk₂ : k₂ = k
      · rw [hk₂, Finmap.lookup_erase] at h₂
        cases h₂
      · rw [Finmap.lookup_erase_ne hk₁] at h₁
        rw [Finmap.lookup_erase_ne hk₂] at h₂
        exact r.held_injective h₁ h₂

/-- What a caller keeps of an object: its key and its identity. -/
structure Handle (κ : Type*) where
  key : κ
  object : ℕ
  deriving DecidableEq, Repr

/-- The key of the handle still names the object it was taken for. -/
def Handle.current (h : Handle κ) (r : Registry κ σ) : Bool := r.get h.key == some h.object

variable {r : Registry κ σ} {k k' : κ} {n m : ℕ} {s fresh : σ}

@[simp] theorem get_empty : (empty fresh : Registry κ σ).get k = none := Finmap.lookup_empty k

@[simp] theorem get_create_self : (r.create fresh k).get k = some r.created :=
  Finmap.lookup_insert _

theorem get_create_of_ne (h : k' ≠ k) : (r.create fresh k).get k' = r.get k' :=
  Finmap.lookup_insert_of_ne _ h

@[simp] theorem objects_create_self : (r.create fresh k).objects r.created = fresh :=
  Function.update_self ..

theorem objects_create_of_ne (h : m ≠ r.created) :
    (r.create fresh k).objects m = r.objects m :=
  Function.update_of_ne h ..

@[simp] theorem objects_write_self : (r.write n s).objects n = s := Function.update_self ..

theorem objects_write_of_ne (h : m ≠ n) : (r.write n s).objects m = r.objects m :=
  Function.update_of_ne h ..

@[simp] theorem objects_remove : (r.remove k).objects = r.objects := rfl

@[simp] theorem get_write : (r.write n s).get k = r.get k := rfl

@[simp] theorem get_remove_self : (r.remove k).get k = none := Finmap.lookup_erase _ _

theorem get_remove_of_ne (h : k' ≠ k) : (r.remove k).get k' = r.get k' :=
  Finmap.lookup_erase_ne h

theorem Handle.current_iff {h : Handle κ} :
    h.current r = true ↔ r.get h.key = some h.object := by
  simp [Handle.current]

end Registry

/-! ## Journals -/

/-- The time a key names one object: the notes that were made on it, in their order. -/
structure Tenure (κ ω : Type*) where
  key : κ
  notes : List ω
  ended : Bool

namespace Tenure

variable {κ ω : Type*}

/-- A note, if the tenure lasts. -/
def note (o : ω) (t : Tenure κ ω) : Tenure κ ω :=
  if t.ended then t else { t with notes := t.notes ++ [o] }

def close (t : Tenure κ ω) : Tenure κ ω := { t with ended := true }

variable {t : Tenure κ ω} {o : ω}

theorem note_of_ended (h : t.ended = true) : t.note o = t := by
  simp [note, h]

theorem note_of_live (h : t.ended = false) : t.note o = { t with notes := t.notes ++ [o] } := by
  simp [note, h]

@[simp] theorem note_key : (t.note o).key = t.key := by
  rw [note]
  split <;> rfl

@[simp] theorem note_ended : (t.note o).ended = t.ended := by
  rw [note]
  split <;> rfl

theorem close_of_ended (h : t.ended = true) : t.close = t := by
  rw [close, ← h]

end Tenure

/-- All tenures, the oldest first: the tenure of object `n` is the one at `n`. -/
abbrev Journal (κ ω : Type*) := List (Tenure κ ω)

namespace Journal

variable {κ ω : Type*}

/-- The tenure of a key that lasts. -/
def current [DecidableEq κ] (k : κ) (j : Journal κ ω) : Option ℕ :=
  j.findIdx? fun t => t.key == k && !t.ended

/-- The tenure of a key that lasts, begun if there is none. -/
def enter [DecidableEq κ] (k : κ) (j : Journal κ ω) : Journal κ ω × ℕ :=
  match j.current k with
  | some n => (j, n)
  | none => (j ++ [⟨k, [], false⟩], j.length)

def note (n : ℕ) (o : ω) (j : Journal κ ω) : Journal κ ω := j.modify n (Tenure.note o)

def close (n : ℕ) (j : Journal κ ω) : Journal κ ω := j.modify n Tenure.close

/-- The notes of a tenure that lasts, which ends with that. -/
def finish (n : ℕ) (j : Journal κ ω) : Journal κ ω × Option (List ω) :=
  match j[n]? with
  | some t => if t.ended then (j, none) else (j.close n, some t.notes)
  | none => (j, none)

/-- The key names the object of this tenure. -/
def Live (j : Journal κ ω) (k : κ) (n : ℕ) : Prop :=
  ∃ t, j[n]? = some t ∧ t.key = k ∧ t.ended = false

/-- The tenure of the object is one of the key of the handle, whether it lasts or not. -/
def Bound (j : Journal κ ω) (handle : Registry.Handle κ) : Prop :=
  ∃ t, j[handle.object]? = some t ∧ t.key = handle.key

end Journal

namespace Journal

variable {κ ω : Type*} {j j' j'' : Journal κ ω} {k : κ} {n m : ℕ} {o : ω}

theorem getElem?_note_self : (j.note n o)[n]? = j[n]?.map (Tenure.note o) := by
  simp [note]

theorem getElem?_note_of_ne (h : m ≠ n) : (j.note n o)[m]? = j[m]? := by
  rw [note, List.getElem?_modify]
  simp [Ne.symm h]

theorem getElem?_close_self : (j.close n)[n]? = j[n]?.map Tenure.close := by
  simp [close]

theorem getElem?_close_of_ne (h : m ≠ n) : (j.close n)[m]? = j[m]? := by
  rw [close, List.getElem?_modify]
  simp [Ne.symm h]

@[simp] theorem length_note : (j.note n o).length = j.length := by simp [note]

@[simp] theorem length_close : (j.close n).length = j.length := by simp [close]

/-- Nothing is noted on a tenure that is over. -/
theorem note_eq_self (h : ∀ t, j[n]? = some t → t.ended = true) : j.note n o = j := by
  refine List.ext_getElem? fun m => ?_
  by_cases hm : m = n
  · subst hm
    rw [getElem?_note_self]
    cases ht : j[m]? with
    | none => rfl
    | some t => simp [Tenure.note_of_ended (h t ht)]
  · exact getElem?_note_of_ne hm

theorem close_eq_self (h : ∀ t, j[n]? = some t → t.ended = true) : j.close n = j := by
  refine List.ext_getElem? fun m => ?_
  by_cases hm : m = n
  · subst hm
    rw [getElem?_close_self]
    cases ht : j[m]? with
    | none => rfl
    | some t => simp [Tenure.close_of_ended (h t ht)]
  · exact getElem?_close_of_ne hm

theorem finish_of_ended (h : ∀ t, j[n]? = some t → t.ended = true) : j.finish n = (j, none) := by
  rw [finish]
  cases ht : j[n]? with
  | none => rfl
  | some t => simp [h t ht]

theorem finish_of_live {t : Tenure κ ω} (ht : j[n]? = some t) (hended : t.ended = false) :
    j.finish n = (j.close n, some t.notes) := by
  rw [finish, ht]
  simp [hended]

/-- A tenure that was finished is closed. -/
theorem ended_finish {t : Tenure κ ω} (ht : (j.finish n).1[n]? = some t) : t.ended = true := by
  cases hj : j[n]? with
  | none =>
      rw [finish_of_ended (by simp [hj]), hj] at ht
      cases ht
  | some t₀ =>
      cases hended : t₀.ended with
      | true =>
          rw [finish_of_ended (by simp [hj, hended]), hj] at ht
          cases ht
          exact hended
      | false =>
          rw [finish_of_live hj hended, getElem?_close_self, hj] at ht
          cases ht
          rfl

theorem ended_close {t : Tenure κ ω} (ht : (j.close n)[n]? = some t) : t.ended = true := by
  rw [getElem?_close_self, Option.map_eq_some_iff] at ht
  obtain ⟨t₀, -, rfl⟩ := ht
  rfl

theorem close_finish : (j.finish n).1.close n = (j.finish n).1 :=
  close_eq_self fun _ => ended_finish

theorem live_append (k' : κ) :
    Live (j ++ [⟨k', [], false⟩]) k n ↔ Live j k n ∨ k' = k ∧ n = j.length := by
  rw [Live, Live]
  rcases Nat.lt_trichotomy n j.length with hn | hn | hn
  · simp [List.getElem?_append_left hn, hn.ne]
  · subst hn
    simp
  · have hlast : (j ++ [⟨k', [], false⟩])[n]? = none := by
      rw [List.getElem?_eq_none_iff, List.length_append, List.length_singleton]
      omega
    have hnone : j[n]? = none := List.getElem?_eq_none_iff.2 hn.le
    simp [hlast, hnone, hn.ne']

theorem live_note : Live (j.note m o) k n ↔ Live j k n := by
  rw [Live, Live]
  by_cases hn : n = m
  · subst hn
    rw [getElem?_note_self]
    simp
  · rw [getElem?_note_of_ne hn]

theorem live_close : Live (j.close m) k n ↔ Live j k n ∧ n ≠ m := by
  rw [Live, Live]
  by_cases hn : n = m
  · subst hn
    rw [getElem?_close_self]
    simp [Tenure.close]
  · rw [getElem?_close_of_ne hn]
    simp [hn]

/-! ### What a stretch of a journal may have done -/

/-- From one journal to a later one: tenures that are over stay as they are, only those in
`ns` were touched, and only keys in `ks` got a new one. -/
structure Moves (ns : Set ℕ) (ks : Set κ) (j j' : Journal κ ω) : Prop where
  length_le : j.length ≤ j'.length
  kept : ∀ {m : ℕ} {t : Tenure κ ω}, j[m]? = some t →
    ∃ t' : Tenure κ ω, j'[m]? = some t' ∧ t'.key = t.key ∧ (t.ended = true → t' = t)
  others : ∀ {m : ℕ}, m < j.length → m ∉ ns → j'[m]? = j[m]?
  fresh : ∀ {m : ℕ} {t : Tenure κ ω}, j.length ≤ m → j'[m]? = some t → t.key ∈ ks

variable {ns ns' : Set ℕ} {ks ks' : Set κ}

theorem moves_refl (ns : Set ℕ) (ks : Set κ) (j : Journal κ ω) : Moves ns ks j j where
  length_le := le_refl _
  kept ht := ⟨_, ht, rfl, fun _ => rfl⟩
  others _ _ := rfl
  fresh hm ht := by
    rw [List.getElem?_eq_none_iff.2 hm] at ht
    cases ht

/-- One stretch after the other.  What the second touches may be new. -/
theorem Moves.trans (h : Moves ns ks j j') (h' : Moves ns' ks j' j'')
    (hns : ∀ m < j.length, m ∈ ns' → m ∈ ns) : Moves ns ks j j'' where
  length_le := h.length_le.trans h'.length_le
  kept {m t} ht := by
    obtain ⟨t', ht', hkey, hended⟩ := h.kept ht
    obtain ⟨t'', ht'', hkey', hended'⟩ := h'.kept ht'
    refine ⟨t'', ht'', hkey'.trans hkey, fun hdone => ?_⟩
    have hsame := hended hdone
    subst hsame
    exact hended' hdone
  others {m} hm hout := by
    have hout' : m ∉ ns' := fun hin => hout (hns m hm hin)
    rw [h'.others (hm.trans_le h.length_le) hout', h.others hm hout]
  fresh {m t} hm ht := by
    by_cases hlater : j'.length ≤ m
    · exact h'.fresh hlater ht
    · have hlt : m < j'.length := by omega
      obtain ⟨t'', ht'', hkey, -⟩ := h'.kept (List.getElem?_eq_getElem hlt)
      rw [ht] at ht''
      cases ht''
      rw [hkey]
      exact h.fresh hm (List.getElem?_eq_getElem hlt)

theorem Moves.mono (h : Moves ns ks j j') (hns : ns ⊆ ns') (hks : ks ⊆ ks') :
    Moves ns' ks' j j' where
  length_le := h.length_le
  kept := h.kept
  others hm hout := h.others hm fun hin => hout (hns hin)
  fresh hm ht := hks (h.fresh hm ht)

theorem moves_note : Moves {n} ks j (j.note n o) where
  length_le := length_note.ge
  kept {m t} ht := by
    by_cases hm : m = n
    · subst hm
      exact ⟨t.note o, by rw [getElem?_note_self, ht]; rfl, Tenure.note_key, Tenure.note_of_ended⟩
    · exact ⟨t, by rw [getElem?_note_of_ne hm, ht], rfl, fun _ => rfl⟩
  others _ hm := getElem?_note_of_ne hm
  fresh hm ht := by
    rw [List.getElem?_eq_none_iff.2 (length_note.trans_le hm)] at ht
    cases ht

theorem moves_close : Moves {n} ks j (j.close n) where
  length_le := length_close.ge
  kept {m t} ht := by
    by_cases hm : m = n
    · subst hm
      exact ⟨t.close, by rw [getElem?_close_self, ht]; rfl, rfl, Tenure.close_of_ended⟩
    · exact ⟨t, by rw [getElem?_close_of_ne hm, ht], rfl, fun _ => rfl⟩
  others _ hm := getElem?_close_of_ne hm
  fresh hm ht := by
    rw [List.getElem?_eq_none_iff.2 (length_close.trans_le hm)] at ht
    cases ht

theorem moves_append : Moves ∅ {k} j (j ++ [⟨k, [], false⟩]) where
  length_le := by simp
  kept {m t} ht := by
    have hm : m < j.length := by
      rw [List.getElem?_eq_some_iff] at ht
      exact ht.1
    exact ⟨t, by rw [List.getElem?_append_left hm, ht], rfl, fun _ => rfl⟩
  others hm _ := List.getElem?_append_left hm
  fresh {m t} hm ht := by
    rw [List.getElem?_append_right hm, List.getElem?_singleton] at ht
    split at ht
    · cases ht
      rfl
    · cases ht

theorem moves_enter [DecidableEq κ] : Moves ∅ {k} j (j.enter k).1 := by
  rw [enter]
  split
  · exact moves_refl _ _ _
  · exact moves_append

theorem bound_of_current [DecidableEq κ] (h : j.current k = some n) : Bound j ⟨k, n⟩ := by
  rw [current, List.findIdx?_eq_some_iff_getElem] at h
  obtain ⟨hn, hlive, -⟩ := h
  rw [Bool.and_eq_true, beq_iff_eq] at hlive
  exact ⟨j[n], List.getElem?_eq_getElem hn, hlive.1⟩

theorem current_of_enter_lt [DecidableEq κ] (h : (j.enter k).2 < j.length) :
    j.current k = some (j.enter k).2 := by
  rw [enter] at h ⊢
  cases hcurrent : j.current k with
  | none =>
      rw [hcurrent] at h
      exact absurd h (Nat.lt_irrefl _)
  | some n => rfl

theorem moves_finish : Moves {n} ks j (j.finish n).1 := by
  rw [finish]
  split
  · split
    · exact moves_refl _ _ _
    · exact moves_close
  · exact moves_refl _ _ _

/-- A handle keeps what it was bound to. -/
theorem Bound.of_moves {handle : Registry.Handle κ} (h : Bound j handle)
    (hmoves : Moves ns ks j j') : Bound j' handle := by
  obtain ⟨t, ht, hkey⟩ := h
  obtain ⟨t', ht', hkey', -⟩ := hmoves.kept ht
  exact ⟨t', ht', hkey'.trans hkey⟩

/-- A key without a tenure stays without until it gets a new one. -/
theorem Moves.not_live (h : Moves ns ks j j') (hk : k ∉ ks) (hnone : ∀ m, ¬ j.Live k m) (m : ℕ) :
    ¬ j'.Live k m := by
  rintro ⟨t', ht', hkey, hended⟩
  by_cases hm : j.length ≤ m
  · exact hk (hkey ▸ h.fresh hm ht')
  · have hlt : m < j.length := Nat.lt_of_not_le hm
    have ht : j[m]? = some j[m] := List.getElem?_eq_getElem hlt
    obtain ⟨t'', ht'', hkey', hdone⟩ := h.kept ht
    rw [ht'] at ht''
    cases ht''
    refine hnone m ⟨_, ht, hkey'.symm.trans hkey, ?_⟩
    by_contra hclosed
    rw [Bool.not_eq_false] at hclosed
    rw [hdone hclosed, hclosed] at hended
    cases hended

end Journal

/-! ## A registry and its journal -/

open Journal in
/-- The registry is what the journal says, where `fold` reads an object off its notes. -/
structure Keeps {κ σ ω : Type*} [DecidableEq κ] (fold : List ω → σ) (j : Journal κ ω)
    (r : Registry κ σ) : Prop where
  created : r.created = j.length
  objects : ∀ {n : ℕ} {t : Tenure κ ω}, j[n]? = some t → r.objects n = fold t.notes
  held : ∀ {k : κ} {n : ℕ}, r.get k = some n ↔ j.Live k n

namespace Keeps

open Registry Journal

variable {κ σ ω : Type*} [DecidableEq κ] {fold : List ω → σ} {j : Journal κ ω}
  {r : Registry κ σ} {k : κ} {n : ℕ} {o : ω} {s : σ}

theorem empty : Keeps fold ([] : Journal κ ω) (Registry.empty (fold [])) where
  created := rfl
  objects h := by simp at h
  held := by simp [Live]

theorem get_eq_none_iff (h : Keeps fold j r) : r.get k = none ↔ ∀ n, ¬ j.Live k n := by
  rw [Option.eq_none_iff_forall_ne_some]
  exact forall_congr' fun n => not_congr h.held

/-- The journal finds the object the registry finds. -/
theorem current_eq (h : Keeps fold j r) (k : κ) : j.current k = r.get k := by
  have hlive : ∀ {m} (hm : m < j.length),
      (j[m].key == k && !j[m].ended) = true ↔ r.get k = some m := by
    intro m hm
    rw [h.held, Live, List.getElem?_eq_getElem hm]
    simp
  cases hget : r.get k with
  | none =>
      rw [current, List.findIdx?_eq_none_iff]
      intro t ht
      obtain ⟨m, hm, rfl⟩ := List.getElem_of_mem ht
      rw [← Bool.not_eq_true, hlive hm, hget]
      simp
  | some n =>
      obtain ⟨t, ht, -, -⟩ := h.held.1 hget
      obtain ⟨hn, -⟩ := List.getElem?_eq_some_iff.1 ht
      rw [current, List.findIdx?_eq_some_iff_getElem]
      refine ⟨hn, (hlive hn).2 hget, fun m hm => ?_⟩
      rw [hlive (hm.trans hn), hget]
      exact fun heq => hm.ne' (Option.some.inj heq)

theorem create (h : Keeps fold j r) (hnone : r.get k = none) :
    Keeps fold (j ++ [⟨k, [], false⟩]) (r.create (fold []) k) where
  created := by
    rw [List.length_append, ← h.created]
    rfl
  objects {n t} ht := by
    by_cases hn : n = r.created
    · subst hn
      rw [h.created, List.getElem?_concat_length] at ht
      cases ht
      exact objects_create_self
    · rw [objects_create_of_ne hn]
      rw [h.created] at hn
      refine h.objects ?_
      rcases Nat.lt_or_gt_of_ne hn with hlt | hgt
      · rwa [List.getElem?_append_left hlt] at ht
      · have hlast : (j ++ [⟨k, [], false⟩])[n]? = none := by
          rw [List.getElem?_eq_none_iff, List.length_append, List.length_singleton]
          omega
        rw [hlast] at ht
        cases ht
  held {k' n} := by
    rw [live_append, ← h.held]
    by_cases hk : k' = k
    · subst hk
      rw [get_create_self, hnone, h.created]
      simp [eq_comm]
    · rw [get_create_of_ne hk]
      simp [Ne.symm hk]

/-- **Getting or making an object** is the same number on both sides. -/
theorem enter (h : Keeps fold j r) (k : κ) :
    Keeps fold (j.enter k).1 (r.enter (fold []) k).1 ∧
      (j.enter k).2 = (r.enter (fold []) k).2 := by
  rw [Journal.enter, Registry.enter, h.current_eq]
  cases hget : r.get k with
  | none => exact ⟨h.create hget, h.created.symm⟩
  | some n => exact ⟨h, rfl⟩

/-- After that the key names the object. -/
theorem live_enter (h : Keeps fold j r) (k : κ) : (j.enter k).1.Live k (j.enter k).2 := by
  rw [Journal.enter, h.current_eq]
  cases hget : r.get k with
  | none => exact live_append k |>.2 (Or.inr ⟨rfl, rfl⟩)
  | some n => exact h.held.1 hget

/-- **A change in place** that is one more note. -/
theorem write (h : Keeps fold j r) (hlive : j.Live k n)
    (hs : ∀ notes, r.objects n = fold notes → s = fold (notes ++ [o])) :
    Keeps fold (j.note n o) (r.write n s) where
  created := by
    rw [length_note, ← h.created]
    rfl
  objects {m t} ht := by
    by_cases hm : m = n
    · subst hm
      obtain ⟨t₀, ht₀, -, hended⟩ := hlive
      rw [getElem?_note_self, ht₀, Option.map_some, Tenure.note_of_live hended] at ht
      cases ht
      rw [objects_write_self]
      exact hs _ (h.objects ht₀)
    · rw [getElem?_note_of_ne hm] at ht
      rw [objects_write_of_ne hm]
      exact h.objects ht
  held {k' m} := by rw [get_write, live_note, h.held]

/-- **Giving the key up** closes the tenure of the object it named. -/
theorem remove (h : Keeps fold j r) (hget : r.get k = some n) :
    Keeps fold (j.close n) (r.remove k) where
  created := by
    rw [length_close, ← h.created]
    rfl
  objects {m t} ht := by
    by_cases hm : m = n
    · subst hm
      rw [getElem?_close_self, Option.map_eq_some_iff] at ht
      obtain ⟨t₀, ht₀, rfl⟩ := ht
      have hfold : r.objects m = fold t₀.notes := h.objects ht₀
      exact hfold
    · rw [getElem?_close_of_ne hm] at ht
      exact h.objects ht
  held {k' m} := by
    rw [live_close, ← h.held]
    by_cases hk : k' = k
    · subst hk
      rw [get_remove_self, hget]
      simp [eq_comm]
    · rw [get_remove_of_ne hk, iff_self_and]
      intro hm hmn
      subst hmn
      exact hk (r.held_injective hm hget)

/-- **The map holds a key for every tenure that lasts**, and nothing else. -/
theorem card_keys (h : Keeps fold j r) : r.held.keys.card = j.countP fun t => !t.ended := by
  have hnodup : ((j.filter fun t => !t.ended).map Tenure.key).Nodup := by
    rw [List.Nodup, List.pairwise_map, List.pairwise_filter, List.pairwise_iff_getElem]
    intro m n hm hn hmn hlive hlive' hkey
    have hget : ∀ {i} (hi : i < j.length), (!j[i].ended) = true →
        r.get j[i].key = some i := fun hi hlast =>
      h.held.2 ⟨_, List.getElem?_eq_getElem hi, rfl, by simpa using hlast⟩
    have hsame := hget hm hlive
    rw [hkey, hget hn hlive'] at hsame
    exact hmn.ne' (Option.some.inj hsame)
  have hkeys : r.held.keys = ((j.filter fun t => !t.ended).map Tenure.key).toFinset := by
    ext k
    rw [Finmap.mem_keys, Finmap.mem_iff, List.mem_toFinset, List.mem_map]
    constructor
    · rintro ⟨n, hn⟩
      obtain ⟨t, ht, hkey, hended⟩ := h.held.1 hn
      exact ⟨t, List.mem_filter.2 ⟨List.mem_of_getElem? ht, by simp [hended]⟩, hkey⟩
    · rintro ⟨t, ht, rfl⟩
      obtain ⟨hmem, hended⟩ := List.mem_filter.1 ht
      obtain ⟨n, hn⟩ := List.mem_iff_getElem?.1 hmem
      exact ⟨n, h.held.2 ⟨t, hn, rfl, by simpa using hended⟩⟩
  rw [hkeys, List.toFinset_card_of_nodup hnodup, List.length_map, List.countP_eq_length_filter]

/-- Giving up a key that names nothing. -/
theorem remove_of_none (h : Keeps fold j r) (hnone : r.get k = none) :
    Keeps fold j (r.remove k) where
  created := h.created
  objects := h.objects
  held {k' m} := by
    rw [← h.held]
    by_cases hk : k' = k
    · rw [hk, get_remove_self, hnone]
    · rw [get_remove_of_ne hk]

/-- A handle whose object is held finds it under its key. -/
theorem enter_of_current (h : Keeps fold j r) {handle : Handle κ}
    (hcurrent : handle.current r = true) : j.enter handle.key = (j, handle.object) := by
  rw [Handle.current_iff] at hcurrent
  rw [Journal.enter, h.current_eq, hcurrent]

/-- The tenure of a handle that is not current is over, even if its key was taken again. -/
theorem ended_of_not_current (h : Keeps fold j r) {handle : Handle κ} (hbound : Bound j handle)
    (hcurrent : handle.current r = false) :
    ∀ t, j[handle.object]? = some t → t.ended = true := by
  intro t ht
  obtain ⟨t', ht', hkey⟩ := hbound
  rw [ht] at ht'
  cases ht'
  by_contra hended
  have hget : r.get handle.key = some handle.object :=
    h.held.2 ⟨t, ht, hkey, Bool.not_eq_true _ ▸ hended⟩
  rw [← Handle.current_iff, hcurrent] at hget
  cases hget

end Keeps
