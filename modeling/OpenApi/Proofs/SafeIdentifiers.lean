import OpenApi.Naming.Identifier
import OpenApi.Proofs.Words

set_option autoImplicit false

/-! # Identifiers can stand in programs

An identifier is made of the words of its name, and an escape sets one more word in front. So it is never
empty, never begins with a digit and is never reserved, whatever the name (`identifier_safe`), and a
name in ASCII has an identifier of ASCII letters, digits and underscores. -/

namespace OpenApi

/-! ## Case forms of words -/

namespace Text

variable {c d : Char} {w : List Char}

/-- The entries of a table of case mappings have no empty text, and so no character has. -/
theorem lookup_ne_nil (table : List (Nat × List Nat)) (h : ∀ entry ∈ table, entry.2 ≠ []) {n : Nat}
    {codes : List Nat} (hcodes : table.lookup n = some codes) : codes ≠ [] := by
  obtain ⟨before, after, rfl, -⟩ := List.lookup_eq_some_iff.1 hcodes
  exact h (n, codes) (List.mem_append_right _ List.mem_cons_self)

theorem toUpper_ne_nil (c : Char) : toUpper c ≠ [] := by
  rw [toUpper]
  split
  · exact List.cons_ne_nil _ _
  · split
    · next hcodes =>
        simpa using lookup_ne_nil upperSpecial (by decide) hcodes
    · exact List.cons_ne_nil _ _

theorem capitalize_ne_nil (hw : w ≠ []) : capitalize w ≠ [] := by
  obtain ⟨c, rest, rfl⟩ := List.exists_cons_of_ne_nil hw
  simp [capitalize, toUpper_ne_nil]

/-! ## Words in ASCII -/

theorem toNat_lt_of_isAlphanum (h : c.isAlphanum = true) : c.toNat < 0x80 := by
  delta Char.isAlphanum Char.isAlpha Char.isUpper Char.isLower Char.isDigit at h
  simp only [Bool.or_eq_true, Bool.and_eq_true, decide_eq_true_eq, UInt32.le_iff_toNat_le,
    ge_iff_le] at h
  have hcode : ((65 ≤ c.toNat ∧ c.toNat ≤ 90) ∨ (97 ≤ c.toNat ∧ c.toNat ≤ 122)) ∨
      (48 ≤ c.toNat ∧ c.toNat ≤ 57) := h
  omega

theorem isAlphanumeric_of_isDigit (h : c.isDigit = true) : isAlphanumeric c = true := by
  have hc : c.isAlphanum = true := by rw [Char.isAlphanum, h, Bool.or_true]
  rwa [isAlphanumeric, if_pos (toNat_lt_of_isAlphanum hc)]

/-- Letters and digits of ASCII stay so in either case. -/
theorem isAlphanum_toUpper_toLower (h : c.isAlphanum = true) :
    c.toUpper.isAlphanum = true ∧ c.toLower.isAlphanum = true := by
  have hall : ∀ n < 0x80, (Char.ofNat n).isAlphanum = true →
      (Char.ofNat n).toUpper.isAlphanum = true ∧ (Char.ofNat n).toLower.isAlphanum = true := by decide
  have hc := hall c.toNat (toNat_lt_of_isAlphanum h)
  rw [Char.ofNat_toNat] at hc
  exact hc h

theorem isAlphanum_of_mem_toUpper (hc : c.isAlphanum = true) (hd : d ∈ toUpper c) :
    d.isAlphanum = true := by
  rw [toUpper, if_pos (toNat_lt_of_isAlphanum hc), List.mem_singleton] at hd
  exact hd ▸ (isAlphanum_toUpper_toLower hc).1

theorem isAlphanum_of_mem_toLower (hc : c.isAlphanum = true) (hd : d ∈ toLower c) :
    d.isAlphanum = true := by
  rw [toLower, if_pos (toNat_lt_of_isAlphanum hc), List.mem_singleton] at hd
  exact hd ▸ (isAlphanum_toUpper_toLower hc).2

theorem isAlphanum_of_mem_lowerWord (hw : ∀ c ∈ w, c.isAlphanum = true) (hd : d ∈ lowerWord w) :
    d.isAlphanum = true := by
  fun_induction lowerWord w with
  | case1 => cases hd
  | case2 => exact absurd (hw 'Σ' List.mem_cons_self) (by decide)
  | case3 c => exact isAlphanum_of_mem_toLower (hw c List.mem_cons_self) hd
  | case4 c rest _ ih =>
      rcases List.mem_append.1 hd with hd | hd
      · exact isAlphanum_of_mem_toLower (hw c List.mem_cons_self) hd
      · exact ih (fun c hc => hw c (List.mem_cons_of_mem _ hc)) hd

theorem isAlphanum_of_mem_capitalize (hw : ∀ c ∈ w, c.isAlphanum = true) (hd : d ∈ capitalize w) :
    d.isAlphanum = true := by
  cases w with
  | nil => cases hd
  | cons c rest =>
      rcases List.mem_append.1 hd with hd | hd
      · exact isAlphanum_of_mem_toUpper (hw c List.mem_cons_self) hd
      · exact isAlphanum_of_mem_lowerWord (fun c hc => hw c (List.mem_cons_of_mem _ hc)) hd

/-- The words of a text in ASCII are made of ASCII letters and digits. -/
theorem isAlphanum_of_mem_words {cs : List Char}
    (hcs : ∀ c ∈ cs, isAlphanumeric c = true → c.toNat < 0x80) (hw : w ∈ words cs) :
    ∀ c ∈ w, c.isAlphanum = true := by
  intro c hc
  have hmem : c ∈ cs.filter isAlphanumeric := flatten_words cs ▸ List.mem_flatten_of_mem hw hc
  obtain ⟨hmem, halpha⟩ := List.mem_filter.1 hmem
  rwa [isAlphanumeric, if_pos (hcs c hmem halpha)] at halpha

end Text

/-! ## The words of a name -/

namespace CasedName

open Text

/-- Cleaning keeps the pieces of a name; the underscore in front of a digit cuts off nothing. -/
theorem pieces_sanitizeChars (cs : List Char) : pieces (sanitizeChars cs) = pieces cs := by
  have hbody : pieces (List.intercalate ['_'] (pieces cs)) = pieces cs :=
    pieces_intercalate (by decide) (fun p hp => isAlphanumeric_of_mem_pieces hp)
      (nil_notMem_pieces cs)
  unfold sanitizeChars
  split
  · split
    · exact (pieces_cons_of_separator (by decide) _).trans hbody
    · exact hbody
  · exact hbody

/-- Cleaning a name keeps its letters and numbers. -/
theorem filter_sanitizeChars (cs : List Char) :
    (sanitizeChars cs).filter isAlphanumeric = cs.filter isAlphanumeric := by
  rw [← flatten_pieces, pieces_sanitizeChars, flatten_pieces]

/-- Nothing is left of a name without letters and numbers. -/
theorem sanitizeChars_eq_nil {cs : List Char} (h : cs.filter isAlphanumeric = []) :
    sanitizeChars cs = [] := by
  have hpieces : pieces cs = [] :=
    (flatten_eq_nil_iff_of_notMem (nil_notMem_pieces cs)).1 (flatten_pieces cs ▸ h)
  unfold sanitizeChars
  rw [hpieces]
  split
  · next c rest =>
      have hdigit : c.isDigit = false := by
        by_contra hdigit
        exact List.filter_eq_nil_iff.1 h c List.mem_cons_self
          (isAlphanumeric_of_isDigit (eq_true_of_ne_false hdigit))
      simp [hdigit]
  · rfl

/-- A cleaned name has words: where nothing is left of it, `unnamed` stands for it. -/
theorem words_sanitize_ne_nil (name : String) : words (sanitize name).toList ≠ [] := by
  rw [sanitize]
  split
  · decide +kernel
  · next hne =>
      rw [String.toList_ofList, Ne, words_eq_nil_iff, filter_sanitizeChars]
      exact fun hnone => hne (sanitizeChars_eq_nil hnone)

/-- The letters and numbers of a cleaned name are in ASCII where those of the name are. -/
theorem ascii_sanitize {name : String} (h : ∀ c ∈ name.toList, c.toNat < 0x80) :
    ∀ c ∈ (sanitize name).toList, isAlphanumeric c = true → c.toNat < 0x80 := by
  rw [sanitize]
  split
  · have hunnamed : "unnamed".toList.all (·.toNat < 0x80) = true := by decide
    exact fun c hc _ => of_decide_eq_true (List.all_eq_true.1 hunnamed c hc)
  · intro c hc halpha
    rw [String.toList_ofList] at hc
    have hmem : c ∈ name.toList.filter isAlphanumeric :=
      filter_sanitizeChars name.toList ▸ List.mem_filter.2 ⟨hc, halpha⟩
    exact h c (List.mem_filter.1 hmem).1

end CasedName

/-! ## Words under a role -/

namespace Role

open Text

/-- How the first word of a name is written under a role. -/
def firstWord (role : Role) (w : List Char) : List Char :=
  match role with
  | .model => capitalize w
  | _ => lowerWord w

/-- How the other words are written. -/
def laterWord (role : Role) (lang : Language) (w : List Char) : List Char :=
  match role, lang with
  | .property, .python | .operation, .python => '_' :: lowerWord w
  | _, _ => capitalize w

/-- The word that the escape of a role sets in front. -/
def escapeWord : Role → List Char
  | .model => "model".toList
  | .property => "var".toList
  | .operation => "call".toList

variable {role : Role} {lang : Language} {w : List Char}

theorem intercalate_map_cons (f : List Char → List Char) (w : List Char) (ws : List (List Char)) :
    List.intercalate ['_'] ((w :: ws).map f) = f w ++ ws.flatMap fun v => '_' :: f v := by
  induction ws generalizing w with
  | nil => simp
  | cons v ws ih =>
      rw [List.map_cons, List.map_cons, List.intercalate_cons_cons, ← List.map_cons, ih,
        List.flatMap_cons]
      simp

/-- Under every role, a name is its first word followed by the others. -/
theorem toList_applyCase {s : String} {ws : List (List Char)} (h : words s.toList = w :: ws) :
    (role.applyCase lang s).toList = role.firstWord w ++ ws.flatMap (role.laterWord lang) := by
  cases role <;> cases lang <;>
    simp only [applyCase, pascalCase, camelCase, snakeCase, h, String.toList_ofList,
      List.flatMap_cons, intercalate_map_cons] <;> rfl

/-- The escape is one more word in front of a name. -/
theorem words_escape (role : Role) (s : String) :
    words (role.escape ++ s).toList = role.escapeWord :: words s.toList := by
  have hchars : (role.escape ++ s).toList = role.escapeWord ++ '_' :: s.toList := by
    cases role <;> simp [escape, escapeWord]
  have hword : words role.escapeWord = [role.escapeWord] := by cases role <;> decide +kernel
  rw [hchars, words_append_cons (by decide), hword, List.singleton_append]

theorem laterWord_ne_nil (hw : w ≠ []) : role.laterWord lang w ≠ [] := by
  unfold laterWord
  split
  · exact List.cons_ne_nil _ _
  · exact List.cons_ne_nil _ _
  · exact capitalize_ne_nil hw

/-- An escaped name is a word of the role's own with something behind it. -/
theorem toList_applyCase_escape (role : Role) (lang : Language) {s : String}
    (hs : words s.toList ≠ []) : ∃ rest, rest ≠ [] ∧
      (role.applyCase lang (role.escape ++ s)).toList = role.firstWord role.escapeWord ++ rest := by
  refine ⟨_, ?_, toList_applyCase (words_escape role s)⟩
  obtain ⟨w, ws, hws⟩ := List.exists_cons_of_ne_nil hs
  have hw : w ≠ [] := fun hnil => nil_notMem_words s.toList (by simp [hws, hnil])
  simp [hws, laterWord_ne_nil hw]

theorem ascii_of_mem_firstWord {d : Char} (hw : ∀ c ∈ w, c.isAlphanum = true)
    (hd : d ∈ role.firstWord w) : d.isAlphanum = true ∨ d = '_' := by
  unfold firstWord at hd
  split at hd
  · exact .inl (isAlphanum_of_mem_capitalize hw hd)
  · exact .inl (isAlphanum_of_mem_lowerWord hw hd)

theorem ascii_of_mem_laterWord {d : Char} (hw : ∀ c ∈ w, c.isAlphanum = true)
    (hd : d ∈ role.laterWord lang w) : d.isAlphanum = true ∨ d = '_' := by
  unfold laterWord at hd
  split at hd
  · rcases List.mem_cons.1 hd with rfl | hd
    · exact .inr rfl
    · exact .inl (isAlphanum_of_mem_lowerWord hw hd)
  · rcases List.mem_cons.1 hd with rfl | hd
    · exact .inr rfl
    · exact .inl (isAlphanum_of_mem_lowerWord hw hd)
  · exact .inl (isAlphanum_of_mem_capitalize hw hd)

/-- What is made of a text in ASCII has ASCII letters, digits and underscores. -/
theorem ascii_of_mem_applyCase {s : String} {d : Char} (hs : words s.toList ≠ [])
    (hascii : ∀ c ∈ s.toList, isAlphanumeric c = true → c.toNat < 0x80)
    (hd : d ∈ (role.applyCase lang s).toList) : d.isAlphanum = true ∨ d = '_' := by
  obtain ⟨w, ws, hws⟩ := List.exists_cons_of_ne_nil hs
  have hwords : ∀ v ∈ w :: ws, ∀ c ∈ v, c.isAlphanum = true := fun v hv =>
    isAlphanum_of_mem_words hascii (hws ▸ hv)
  rw [toList_applyCase hws] at hd
  rcases List.mem_append.1 hd with hd | hd
  · exact ascii_of_mem_firstWord (hwords w List.mem_cons_self) hd
  · obtain ⟨v, hv, hd⟩ := List.mem_flatMap.1 hd
    exact ascii_of_mem_laterWord (hwords v (List.mem_cons_of_mem _ hv)) hd

end Role

/-! ## Identifiers -/

/-- A text can stand as an identifier of a language: it is not empty, does not begin with a digit and is
    not reserved. -/
structure Language.Admits (lang : Language) (word : String) : Prop where
  start : ∃ c rest, word.toList = c :: rest ∧ c.isDigit = false
  unreserved : word ∉ lang.reservedWords

/-- A letter or an underscore followed by letters, digits and underscores, all of ASCII. -/
def IsAsciiIdentifier (word : String) : Prop :=
  ∃ c rest, word.toList = c :: rest ∧ (c.isAlpha = true ∨ c = '_') ∧
    ∀ d ∈ rest, d.isAlphanum = true ∨ d = '_'

variable {name word : String} {role : Role} {lang : Language}

/-- What needs no escape can stand as it is. -/
theorem admits_iff : lang.Admits word ↔ needsEscape lang word = false := by
  unfold needsEscape
  constructor
  · rintro ⟨⟨c, rest, hword, hdigit⟩, hreserved⟩
    rw [hword]
    simp [hdigit, Language.reserves, hreserved]
  · intro h
    split at h
    · cases h
    · next c rest hword =>
        rw [Bool.or_eq_false_iff, Language.reserves, List.contains_eq_mem, decide_eq_false_iff_not] at h
        exact ⟨⟨c, rest, hword, h.1⟩, h.2⟩

/-- No reserved word goes on behind the word that an escape sets in front. -/
theorem eq_escapeWord_of_reserved (role : Role) (lang : Language) :
    ∀ word ∈ lang.reservedWords, role.firstWord role.escapeWord <+: word.toList →
      word.toList = role.firstWord role.escapeWord := by
  cases role <;> cases lang <;> decide +kernel

/-- An escaped name can stand as it is. -/
theorem admits_escape {s : String} (hs : Text.words s.toList ≠ []) :
    lang.Admits (role.applyCase lang (role.escape ++ s)) := by
  obtain ⟨rest, hrest, hchars⟩ := role.toList_applyCase_escape lang hs
  constructor
  · have hstart : ∃ c cs, role.firstWord role.escapeWord = c :: cs ∧ c.isDigit = false := by
      cases role <;> exact ⟨_, _, rfl, by decide +kernel⟩
    obtain ⟨c, cs, hword, hdigit⟩ := hstart
    exact ⟨c, cs ++ rest, by rw [hchars, hword, List.cons_append], hdigit⟩
  · intro hreserved
    have heq := eq_escapeWord_of_reserved role lang _ hreserved ⟨rest, hchars.symm⟩
    rw [hchars] at heq
    exact hrest (List.self_eq_append_right.1 heq.symm)

/-- An identifier is the case form of the cleaned name, or that of the escaped one where the first cannot
    stand as it is. -/
theorem identifier_eq_or (name : String) (role : Role) (lang : Language) :
    (lang.Admits (role.applyCase lang (CasedName.sanitize name)) ∧
      identifier name role lang = role.applyCase lang (CasedName.sanitize name)) ∨
    identifier name role lang = role.applyCase lang (role.escape ++ CasedName.sanitize name) := by
  unfold identifier
  by_cases h : needsEscape lang (role.applyCase lang (CasedName.sanitize name)) = true
  · exact .inr (if_pos h)
  · exact .inl ⟨admits_iff.2 (eq_false_of_ne_true h), if_neg h⟩

theorem admits_identifier (name : String) (role : Role) (lang : Language) :
    lang.Admits (identifier name role lang) := by
  rcases identifier_eq_or name role lang with ⟨hadmits, heq⟩ | heq
  · rwa [heq]
  · rw [heq]
    exact admits_escape (CasedName.words_sanitize_ne_nil name)

/-- The identifier of a name in ASCII has ASCII letters, digits and underscores. -/
theorem ascii_of_mem_identifier (hascii : ∀ c ∈ name.toList, c.toNat < 0x80) {d : Char}
    (hd : d ∈ (identifier name role lang).toList) : d.isAlphanum = true ∨ d = '_' := by
  have hname := CasedName.ascii_sanitize hascii
  rcases identifier_eq_or name role lang with ⟨-, heq⟩ | heq
  · rw [heq] at hd
    exact Role.ascii_of_mem_applyCase (CasedName.words_sanitize_ne_nil name) hname hd
  · rw [heq] at hd
    have hwords : Text.words (role.escape ++ CasedName.sanitize name).toList ≠ [] := by
      rw [Role.words_escape]
      exact List.cons_ne_nil _ _
    refine Role.ascii_of_mem_applyCase hwords (fun c hc halpha => ?_) hd
    rw [String.toList_append, List.mem_append] at hc
    rcases hc with hc | hc
    · have hescape : role.escape.toList.all (·.toNat < 0x80) = true := by cases role <;> decide
      exact of_decide_eq_true (List.all_eq_true.1 hescape c hc)
    · exact hname c hc halpha

/-- Every name has an identifier that can stand in a program, and where the name is in ASCII so is the
    identifier. -/
theorem identifier_safe (name : String) (role : Role) (lang : Language) :
    lang.Admits (identifier name role lang) ∧
      ((∀ c ∈ name.toList, c.toNat < 0x80) → IsAsciiIdentifier (identifier name role lang)) := by
  have hadmits := admits_identifier name role lang
  refine ⟨hadmits, fun hascii => ?_⟩
  obtain ⟨c, rest, hword, hdigit⟩ := hadmits.start
  have hchars : ∀ d ∈ c :: rest, d.isAlphanum = true ∨ d = '_' := fun d hd =>
    ascii_of_mem_identifier hascii (hword ▸ hd)
  refine ⟨c, rest, hword, ?_, fun d hd => hchars d (List.mem_cons_of_mem _ hd)⟩
  rcases hchars c List.mem_cons_self with hc | hc
  · rw [Char.isAlphanum, hdigit, Bool.or_false] at hc
    exact .inl hc
  · exact .inr hc

theorem identifier_safe_class :
    (∀ c ∈ "class".toList, c.toNat < 0x80) ∧ identifier "class" .property .python = "var_class" ∧
      Language.python.Admits "var_class" ∧ IsAsciiIdentifier "var_class" := by
  have hall : "class".toList.all (·.toNat < 0x80) = true := by decide
  have hascii : ∀ c ∈ "class".toList, c.toNat < 0x80 := fun c hc =>
    of_decide_eq_true (List.all_eq_true.1 hall c hc)
  have hword : identifier "class" .property .python = "var_class" := by decide +kernel
  obtain ⟨hadmits, hchars⟩ := identifier_safe "class" .property .python
  exact ⟨hascii, hword, hword ▸ hadmits, hword ▸ hchars hascii⟩

end OpenApi
