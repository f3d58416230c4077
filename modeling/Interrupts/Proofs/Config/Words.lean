import Interrupts.Text.Blank

/-!
# The words of a line

`words` reads a line once, from left to right. This module says what comes of it: `IsWords` is the
grammar of a line that is cut at its blanks, and `words` answers the list of this grammar. A prefix
of a word is told by `after?`, which answers what is left.
-/

namespace Interrupts.Text

variable {line run rest start text : List Char} {ws : List (List Char)}

/-- **A line that consists of these words**, with blanks around them. A word does not end before a
blank or the end of the line. -/
inductive IsWords : List Char → List (List Char) → Prop
  | nil : IsWords [] []
  /-- Blanks stand before, between and after words. -/
  | blank {c : Char} {line : List Char} {ws : List (List Char)} (hc : isBlank c = true)
      (hline : IsWords line ws) : IsWords (c :: line) ws
  /-- A word is as long as it can be. -/
  | word {w rest : List Char} {ws : List (List Char)} (hne : w ≠ [])
      (hw : ∀ c ∈ w, isBlank c = false) (hend : ∀ c ∈ rest.head?, isBlank c = true)
      (hrest : IsWords rest ws) : IsWords (w ++ rest) (w :: ws)

/-- The run that was read is a word when it is not empty. -/
theorem IsWords.closeRun (hrun : ∀ c ∈ run, isBlank c = false)
    (hend : ∀ c ∈ rest.head?, isBlank c = true) (hrest : IsWords rest ws) :
    IsWords (run.reverse ++ rest) (closeRun run ws) := by
  unfold Text.closeRun
  cases run with
  | nil => exact hrest
  | cons c run =>
    refine .word (fun h => ?_) (fun c hc => hrun c (List.mem_reverse.mp hc)) hend hrest
    exact List.cons_ne_nil c run (List.reverse_eq_nil_iff.mp h)

/-- What the splitter cuts a line into are its words, with the letters of a word that was begun in
front. -/
theorem isWords_wordsFrom (hrun : ∀ c ∈ run, isBlank c = false) :
    IsWords (run.reverse ++ line) (wordsFrom run line) := by
  induction line generalizing run with
  | nil => exact .closeRun hrun (fun _ h => nomatch h) .nil
  | cons c line ih =>
    unfold wordsFrom
    by_cases hc : isBlank c = true
    · rw [if_pos hc]
      refine .closeRun hrun (fun d hd => ?_) (.blank hc (ih fun _ h => absurd h List.not_mem_nil))
      cases hd
      exact hc
    · rw [if_neg hc]
      have hlonger := ih (List.forall_mem_cons.mpr ⟨Bool.eq_false_iff.mpr hc, hrun⟩)
      rwa [List.reverse_cons, List.append_assoc] at hlonger

theorem isWords_words (line : List Char) : IsWords line (words line) :=
  isWords_wordsFrom fun _ h => absurd h List.not_mem_nil

/-- Letters without a blank are added to the word that was begun. -/
theorem wordsFrom_append (hw : ∀ c ∈ text, isBlank c = false) :
    wordsFrom run (text ++ rest) = wordsFrom (text.reverse ++ run) rest := by
  induction text generalizing run with
  | nil => rfl
  | cons c text ih =>
    obtain ⟨hc, hw⟩ := List.forall_mem_cons.mp hw
    rw [List.cons_append, wordsFrom, hc, if_neg Bool.false_ne_true, ih hw, List.reverse_cons,
      List.append_assoc]
    rfl

/-- A line has one list of words only. -/
theorem IsWords.eq_words (h : IsWords line ws) : ws = words line := by
  induction h with
  | nil => rfl
  | blank hc _ ih =>
    rw [ih]
    exact (if_pos hc).symm
  | @word w rest ws hne hw hend _ ih =>
    rw [words, wordsFrom_append hw, List.append_nil, ih]
    cases rest with
    | nil => simp [words, wordsFrom, Text.closeRun, hne]
    | cons c rest =>
      have hc : isBlank c = true := hend c rfl
      simp [words, wordsFrom, Text.closeRun, hne, hc]

/-- **The words of a line** are cut out at its blanks, in the only way there is. -/
theorem isWords_iff : IsWords line ws ↔ ws = words line :=
  ⟨IsWords.eq_words, fun h => h ▸ isWords_words line⟩

/-! ## Prefixes -/

/-- What comes behind a beginning is what is left of the text. -/
theorem after?_eq_some : after? start text = some rest ↔ text = start ++ rest := by
  induction start generalizing text with
  | nil => exact Option.some_inj
  | cons s start ih =>
    cases text with
    | nil => exact ⟨fun h => (nomatch h), fun h => (nomatch h)⟩
    | cons c text =>
      unfold after?
      rw [List.cons_append, List.cons.injEq]
      by_cases hsc : s = c
      · rw [if_pos hsc, ih]
        exact (and_iff_right hsc.symm).symm
      · rw [if_neg hsc]
        exact ⟨fun h => (nomatch h), fun h => absurd h.1.symm hsc⟩

end Interrupts.Text
