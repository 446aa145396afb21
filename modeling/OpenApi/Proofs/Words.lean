import Mathlib.Data.List.Basic
import OpenApi.Text.Words

set_option autoImplicit false

/-! # The words of a text

A text is cut at its separators and where its case changes. Nothing but the separators is lost
(`flatten_words`), no word is empty, and the words on the two sides of a separator do not depend on each
other (`words_append_cons`). Pieces that are joined again have the same pieces (`pieces_intercalate`). -/

namespace OpenApi

namespace Text

variable {c : Char} {cs rev w : List Char} {mode : Mode}

/-! ## Pieces -/

theorem segments_ne_nil (cs : List Char) : segments cs ≠ [] := by
  induction cs with
  | nil => simp [segments]
  | cons c cs ih =>
      rw [segments]
      by_cases hc : isAlphanumeric c = true
      · rw [if_pos hc]
        split <;> simp
      · simp [hc]

theorem segments_cons_of_alphanumeric (hc : isAlphanumeric c = true) {ws : List (List Char)}
    (hws : segments cs = w :: ws) : segments (c :: cs) = (c :: w) :: ws := by
  rw [segments, if_pos hc, hws]

theorem segments_cons_of_separator (hc : isAlphanumeric c = false) (cs : List Char) :
    segments (c :: cs) = [] :: segments cs := by
  simp [segments, hc]

/-- A text falls apart at a separator. -/
theorem segments_append_cons (hc : isAlphanumeric c = false) (as bs : List Char) :
    segments (as ++ c :: bs) = segments as ++ segments bs := by
  induction as with
  | nil => exact segments_cons_of_separator hc bs
  | cons a as ih =>
      by_cases ha : isAlphanumeric a = true
      · obtain ⟨w, ws, hws⟩ := List.exists_cons_of_ne_nil (segments_ne_nil as)
        rw [hws] at ih
        rw [List.cons_append, segments_cons_of_alphanumeric ha ih,
          segments_cons_of_alphanumeric ha hws]
        rfl
      · rw [List.cons_append, segments_cons_of_separator (eq_false_of_ne_true ha), ih,
          segments_cons_of_separator (eq_false_of_ne_true ha)]
        rfl

/-- The segments hold the letters and numbers of the text. -/
theorem flatten_segments (cs : List Char) : (segments cs).flatten = cs.filter isAlphanumeric := by
  induction cs with
  | nil => rfl
  | cons c rest ih =>
      by_cases hc : isAlphanumeric c = true
      · obtain ⟨w, ws, hws⟩ := List.exists_cons_of_ne_nil (segments_ne_nil rest)
        rw [segments_cons_of_alphanumeric hc hws, List.filter_cons_of_pos hc, ← ih, hws]
        rfl
      · rw [segments_cons_of_separator (eq_false_of_ne_true hc), List.filter_cons_of_neg hc, ← ih]
        rfl

/-- Parts that are not empty are lost from a text only when there are none. -/
theorem flatten_eq_nil_iff_of_notMem {parts : List (List Char)} (h : [] ∉ parts) :
    parts.flatten = [] ↔ parts = [] := by
  rw [List.flatten_eq_nil_iff]
  constructor
  · intro hall
    exact List.eq_nil_iff_forall_not_mem.2 fun w hw => h (hall w hw ▸ hw)
  · rintro rfl w hw
    cases hw

theorem nil_notMem_pieces (cs : List Char) : [] ∉ pieces cs := by
  simp [pieces]

theorem flatten_pieces (cs : List Char) : (pieces cs).flatten = cs.filter isAlphanumeric := by
  rw [pieces, List.flatten_filter_ne_nil, flatten_segments]

theorem isAlphanumeric_of_mem_pieces (hw : w ∈ pieces cs) : ∀ c ∈ w, isAlphanumeric c = true := by
  intro c hc
  have hmem : c ∈ cs.filter isAlphanumeric := flatten_pieces cs ▸ List.mem_flatten_of_mem hw hc
  exact (List.mem_filter.1 hmem).2

theorem pieces_cons_of_alphanumeric (hc : isAlphanumeric c = true) {ws : List (List Char)}
    (hws : segments cs = w :: ws) : pieces (c :: cs) = (c :: w) :: ws.filter (· ≠ []) := by
  simp [pieces, segments_cons_of_alphanumeric hc hws]

theorem pieces_cons_of_separator (hc : isAlphanumeric c = false) (cs : List Char) :
    pieces (c :: cs) = pieces cs := by
  simp [pieces, segments_cons_of_separator hc]

theorem pieces_append_cons (hc : isAlphanumeric c = false) (as bs : List Char) :
    pieces (as ++ c :: bs) = pieces as ++ pieces bs := by
  simp [pieces, segments_append_cons hc]

/-- Letters and numbers are one segment. -/
theorem segments_of_alphanumeric (hw : ∀ c ∈ w, isAlphanumeric c = true) : segments w = [w] := by
  induction w with
  | nil => rfl
  | cons c w ih =>
      obtain ⟨hc, hw⟩ := List.forall_mem_cons.1 hw
      exact segments_cons_of_alphanumeric hc (ih hw)

theorem pieces_of_alphanumeric (hw : ∀ c ∈ w, isAlphanumeric c = true) (hne : w ≠ []) :
    pieces w = [w] := by
  simp [pieces, segments_of_alphanumeric hw, hne]

/-- Pieces that are joined by a separator are cut there again. -/
theorem pieces_intercalate {ps : List (List Char)} (hc : isAlphanumeric c = false)
    (hps : ∀ p ∈ ps, ∀ d ∈ p, isAlphanumeric d = true) (hne : [] ∉ ps) :
    pieces (List.intercalate [c] ps) = ps := by
  induction ps with
  | nil => rfl
  | cons p ps ih =>
      obtain ⟨hp, hps⟩ := List.forall_mem_cons.1 hps
      obtain ⟨hpne, hne⟩ := not_or.1 (List.mem_cons.not.1 hne)
      have hone : pieces p = [p] := pieces_of_alphanumeric hp (Ne.symm hpne)
      cases ps with
      | nil => rw [List.intercalate_singleton, hone]
      | cons q ps =>
          rw [List.intercalate_cons_cons, List.append_assoc, List.singleton_append,
            pieces_append_cons hc, hone, ih hps hne, List.singleton_append]

/-! ## Words -/

/-- Cutting a piece where its case changes loses nothing. -/
theorem flatten_humps (mode : Mode) (rev cs : List Char) :
    (humps mode rev cs).flatten = rev.reverse ++ cs := by
  fun_induction humps mode rev cs with
  | case1 => rfl
  | case2 => simp
  | case3 => simp
  | case4 mode rev c next rest _ ih => simp [ih]
  | case5 mode rev c next rest _ _ ih => simp [ih]
  | case6 mode rev c next rest _ _ ih => simp [ih]

/-- The mode is that of an upper case letter only after one has been read, so that no word is empty. -/
theorem nil_notMem_humps (h : mode = .upper → rev ≠ []) : [] ∉ humps mode rev cs := by
  fun_induction humps mode rev cs with
  | case1 => exact List.not_mem_nil
  | case2 mode rev hrev => simpa using hrev
  | case3 => simp
  | case4 mode rev c next rest _ ih =>
      simp only [List.mem_cons, not_or]
      exact ⟨by simp, ih Mode.noConfusion⟩
  | case5 mode rev c next rest _ hupper ih =>
      simp only [Bool.and_eq_true, decide_eq_true_eq] at hupper
      simp only [List.mem_cons, not_or]
      exact ⟨by simpa using Ne.symm (h hupper.1.1), ih Mode.noConfusion⟩
  | case6 mode rev c next rest _ _ ih => exact ih fun _ => List.cons_ne_nil _ _

theorem words_append_cons (hc : isAlphanumeric c = false) (as bs : List Char) :
    words (as ++ c :: bs) = words as ++ words bs := by
  simp [words, pieces_append_cons hc]

/-- The words hold the letters and numbers of the text. -/
theorem flatten_words (cs : List Char) : (words cs).flatten = cs.filter isAlphanumeric := by
  rw [words, ← flatten_pieces]
  induction pieces cs with
  | nil => rfl
  | cons piece rest ih =>
      rw [List.flatMap_cons, List.flatten_append, ih, flatten_humps, List.flatten_cons]
      rfl

theorem nil_notMem_words (cs : List Char) : [] ∉ words cs := by
  rw [words, List.mem_flatMap]
  rintro ⟨piece, -, hpiece⟩
  exact nil_notMem_humps Mode.noConfusion hpiece

/-- Only a text without letters and numbers has no words. -/
theorem words_eq_nil_iff : words cs = [] ↔ cs.filter isAlphanumeric = [] := by
  rw [← flatten_words]
  exact (flatten_eq_nil_iff_of_notMem (nil_notMem_words cs)).symm

end Text

end OpenApi
