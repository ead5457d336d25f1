import Mathlib.Data.List.Basic
import Mathlib.Data.List.Forall2

/-!
# Scanners

A scanner cuts a text into lexemes, each as long as it can be.  What may follow a lexeme
depends on one symbol, so whether a text is cut at given places can be checked piece by
piece.

* `Scanner` — the step of a scanner, with its laws;
* `Scanner.lexemes` — the lexemes of a text; nothing of the text is lost;
* `Scanner.lexemes_eq_iff` — the lexemes of a text are the chained ones that spell it;
* `Scanner.chained_of_forall₂` — a chain may be respelled piece by piece.
-/

/-- The step of a scanner, on a text that is not empty. -/
structure Scanner (α Λ : Type*) where
  next : α → List α → Λ × List α
  /-- What was read. -/
  text : Λ → List α
  /-- What may come behind a lexeme; `none` is the end of the text. -/
  Follows : Λ → Option α → Prop
  split : ∀ a s, text (next a s).1 ++ (next a s).2 = a :: s
  nonempty : ∀ a s, text (next a s).1 ≠ []
  follows : ∀ a s, Follows (next a s).1 (next a s).2.head?
  /-- Nothing else is looked at. -/
  stable : ∀ a s a' s' rest, Follows (next a s).1 rest.head? →
    text (next a s).1 ++ rest = a' :: s' → next a' s' = ((next a s).1, rest)

namespace Scanner

variable {α Λ : Type*} (S : Scanner α Λ)

/-- The first lexemes of a text. -/
def scan : ℕ → List α → List Λ
  | _, [] => []
  | 0, _ :: _ => []
  | n + 1, a :: s => (S.next a s).1 :: scan n (S.next a s).2

/-- The lexemes of a text. -/
def lexemes (s : List α) : List Λ := S.scan s.length s

/-- The text of some lexemes. -/
def spell (ls : List Λ) : List α := ls.flatMap S.text

@[simp] theorem spell_nil : S.spell [] = [] := rfl

@[simp] theorem spell_cons (l : Λ) (ls : List Λ) : S.spell (l :: ls) = S.text l ++ S.spell ls := by
  simp [spell]

/-- The scanner can read the lexeme. -/
def Readable (l : Λ) : Prop := ∃ a s, (S.next a s).1 = l

/-- Lexemes that stay apart when they are written one behind the other. -/
def Chained : List Λ → Prop
  | [] => True
  | l :: ls => S.Readable l ∧ S.Follows l (S.spell ls).head? ∧ Chained ls

variable {S}

theorem length_next_lt (a : α) (s : List α) : (S.next a s).2.length < (a :: s).length := by
  have hlength := congrArg List.length (S.split a s)
  have hpos := List.length_pos_of_ne_nil (S.nonempty a s)
  simp only [List.length_append] at hlength
  omega

/-- **Nothing is lost**, and every step is enough to go on. -/
theorem spell_scan {n : ℕ} {s : List α} (h : s.length ≤ n) : S.spell (S.scan n s) = s := by
  induction n generalizing s with
  | zero =>
      obtain rfl := List.length_eq_zero_iff.1 (Nat.le_zero.1 h)
      rfl
  | succ n ih =>
      cases s with
      | nil => rfl
      | cons a s =>
          have hlt := length_next_lt (S := S) a s
          rw [scan, spell_cons, ih (by omega), S.split]

theorem spell_lexemes (s : List α) : S.spell (S.lexemes s) = s := spell_scan (Nat.le_refl _)

theorem chained_scan {n : ℕ} {s : List α} (h : s.length ≤ n) : S.Chained (S.scan n s) := by
  induction n generalizing s with
  | zero =>
      obtain rfl := List.length_eq_zero_iff.1 (Nat.le_zero.1 h)
      trivial
  | succ n ih =>
      cases s with
      | nil => trivial
      | cons a s =>
          have hlt := length_next_lt (S := S) a s
          refine ⟨⟨a, s, rfl⟩, ?_, ih (by omega)⟩
          rw [spell_scan (by omega)]
          exact S.follows a s

theorem Readable.text_ne_nil {l : Λ} (h : S.Readable l) : S.text l ≠ [] := by
  obtain ⟨a, s, rfl⟩ := h
  exact S.nonempty a s

theorem scan_spell {ls : List Λ} (h : S.Chained ls) {n : ℕ} (hn : (S.spell ls).length ≤ n) :
    S.scan n (S.spell ls) = ls := by
  induction ls generalizing n with
  | nil => cases n <;> rfl
  | cons l ls ih =>
      obtain ⟨hread, hfollows, hchained⟩ := h
      rw [spell_cons] at hn ⊢
      obtain ⟨a, s, rfl⟩ := hread
      cases htext : S.text (S.next a s).1 ++ S.spell ls with
      | nil =>
          rw [List.append_eq_nil_iff] at htext
          exact absurd htext.1 (S.nonempty a s)
      | cons a' s' =>
          have hlength := congrArg List.length htext
          have hpos := List.length_pos_of_ne_nil (S.nonempty a s)
          simp only [List.length_append, List.length_cons] at hlength hn
          obtain ⟨n, rfl⟩ : ∃ m, n = m + 1 := ⟨n - 1, by omega⟩
          rw [scan, S.stable a s a' s' _ hfollows htext, ih hchained (by omega)]

/-- **The lexemes of a text** are the ones that spell it and stay apart. -/
theorem lexemes_eq_iff {s : List α} {ls : List Λ} :
    S.lexemes s = ls ↔ S.Chained ls ∧ S.spell ls = s := by
  constructor
  · rintro rfl
    exact ⟨chained_scan (Nat.le_refl _), spell_lexemes s⟩
  · rintro ⟨hchained, rfl⟩
    exact scan_spell hchained (Nat.le_refl _)

/-- Lexemes may be respelled one by one, as long as the symbols that are looked at stay
alike. -/
theorem chained_of_forall₂ {R : Λ → Λ → Prop} {H : Option α → Option α → Prop}
    (hend : H none none) (hread : ∀ {l l'}, R l l' → S.Readable l → S.Readable l')
    (hfollows : ∀ {l l' h h'}, R l l' → S.Readable l → H h h' → S.Follows l h → S.Follows l' h')
    (hhead : ∀ {l l'}, R l l' → S.Readable l → H (S.text l).head? (S.text l').head?)
    {ls ls' : List Λ} (h : List.Forall₂ R ls ls') (hchained : S.Chained ls) :
    S.Chained ls' ∧ H (S.spell ls).head? (S.spell ls').head? := by
  induction h with
  | nil => exact ⟨trivial, hend⟩
  | @cons l l' ls ls' hR _ ih =>
      obtain ⟨hreadable, hfollow, hrest⟩ := hchained
      obtain ⟨hchained', hheads⟩ := ih hrest
      have hreadable' := hread hR hreadable
      refine ⟨⟨hreadable', hfollows hR hreadable hheads hfollow, hchained'⟩, ?_⟩
      rw [spell_cons, spell_cons, List.head?_append_of_ne_nil _ hreadable.text_ne_nil,
        List.head?_append_of_ne_nil _ hreadable'.text_ne_nil]
      exact hhead hR hreadable

end Scanner
