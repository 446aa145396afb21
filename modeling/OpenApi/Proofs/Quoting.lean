import OpenApi.Model.TypeExpr

set_option autoImplicit false

/-! # Literals in generated code

The values of an enum are written as literals in single quotes, and the type of an enum lists them.
`Spells` says what the text between the quotes stands for, `IsLiteral` when a text is one literal of
both languages, and `Separated` how a text falls into literals. `literal_string_spells` shows what is written for
strings: every literal is read back as its string, and every list of them as its strings, but characters
that end a line are not escaped, so that a literal is well-formed only where its string has none. -/

namespace OpenApi

namespace TypeExpr

/-! ## Reading literals -/

/-- Whether a character ends a line, which no literal in single quotes goes beyond. -/
def endsLine (c : Char) : Bool := c = '\n' || c = '\r'

/-- What a character stands for behind a backslash, in both languages. -/
def escaped? : Char → Option Char
  | '\\' => some '\\'
  | '\'' => some '\''
  | 'n' => some '\n'
  | 'r' => some '\r'
  | _ => none

/-- A text between quotes stands for a value: no quote in it is without a backslash before it, and each
    backslash escapes a character. -/
inductive Spells : List Char → List Char → Prop
  | nil : Spells [] []
  | plain {c : Char} {body value : List Char} : c ≠ '\'' → c ≠ '\\' → Spells body value →
      Spells (c :: body) (c :: value)
  | escape {c v : Char} {body value : List Char} : escaped? c = some v → Spells body value →
      Spells ('\\' :: c :: body) (v :: value)

/-- A text is one literal for a value, on a single line. -/
def IsLiteral (text value : String) : Prop :=
  ∃ body, text.toList = '\'' :: body ++ ['\''] ∧ Spells body value.toList ∧ ∀ c ∈ body, ¬ endsLine c

/-- A text is made of literals for some values with a separator between them. -/
inductive Separated (separator : List Char) : List Char → List String → Prop
  | nil : Separated separator [] []
  | single {body : List Char} {value : String} : Spells body value.toList →
      Separated separator ('\'' :: body ++ ['\'']) [value]
  | cons {body rest : List Char} {value next : String} {values : List String} :
      Spells body value.toList → Separated separator rest (next :: values) →
      Separated separator ('\'' :: body ++ '\'' :: (separator ++ rest)) (value :: next :: values)

/-- A text is the type of one of some strings in a language. -/
def ListsStrings (lang : Language) (text : String) (values : List String) : Prop :=
  match lang with
  | .typescript => Separated " | ".toList text.toList values
  | .python => ∃ inner : String,
      text = "Literal[" ++ inner ++ "]" ∧ Separated ", ".toList inner.toList values

section Reading

variable {body body' value value' rest rest' separator : List Char} {values values' : List String}

/-- A literal ends at its first quote that is not escaped, whatever follows it. -/
theorem Spells.unique (h : Spells body value) (h' : Spells body' value')
    (heq : body ++ '\'' :: rest = body' ++ '\'' :: rest') :
    body = body' ∧ value = value' ∧ rest = rest' := by
  induction h generalizing body' value' with
  | nil =>
      cases h' with
      | nil => exact ⟨rfl, rfl, (List.cons.inj heq).2⟩
      | plain hquote => exact absurd (List.cons.inj heq).1.symm hquote
      | escape => exact absurd (List.cons.inj heq).1 (by decide)
  | plain hquote hslash _ ih =>
      cases h' with
      | nil => exact absurd (List.cons.inj heq).1 hquote
      | plain _ _ h' =>
          obtain ⟨rfl, htail⟩ := List.cons.inj heq
          obtain ⟨rfl, rfl, rfl⟩ := ih h' htail
          exact ⟨rfl, rfl, rfl⟩
      | escape => exact absurd (List.cons.inj heq).1 hslash
  | escape hv _ ih =>
      cases h' with
      | nil => exact absurd (List.cons.inj heq).1 (by decide)
      | plain _ hslash => exact absurd (List.cons.inj heq).1.symm hslash
      | escape hv' h' =>
          obtain ⟨rfl, htail⟩ := List.cons.inj (List.cons.inj heq).2
          cases hv.symm.trans hv'
          obtain ⟨rfl, rfl, rfl⟩ := ih h' htail
          exact ⟨rfl, rfl, rfl⟩

/-- The text between the quotes stands for one value only. -/
theorem Spells.value_eq (h : Spells body value) (h' : Spells body value') : value = value' := by
  obtain ⟨-, hvalue, -⟩ := h.unique h' (Eq.refl (body ++ ['\'']))
  exact hvalue

/-- A text falls into literals in one way only. -/
theorem Separated.unique {text : List Char} (h : Separated separator text values)
    (h' : Separated separator text values') : values = values' := by
  generalize htext : text = text' at h'
  induction h generalizing text' values' with
  | nil =>
      cases h' with
      | nil => rfl
      | single => cases htext
      | cons => cases htext
  | single hbody =>
      cases h' with
      | nil => cases htext
      | single hbody' =>
          obtain ⟨-, hvalue, -⟩ := hbody.unique hbody' (List.cons.inj htext).2
          rw [String.toList_injective hvalue]
      | cons hbody' hrest =>
          -- the other reading goes on behind the closing quote, where nothing is left
          obtain ⟨-, -, hnil⟩ := hbody.unique hbody' (List.cons.inj htext).2
          obtain ⟨-, rfl⟩ := List.append_eq_nil_iff.1 hnil.symm
          cases hrest
  | cons hbody hrest ih =>
      cases h' with
      | nil => cases htext
      | single hbody' =>
          obtain ⟨-, -, hnil⟩ := hbody.unique hbody' (List.cons.inj htext).2
          obtain ⟨-, rfl⟩ := List.append_eq_nil_iff.1 hnil
          cases hrest
      | cons hbody' hrest' =>
          obtain ⟨-, hvalue, heq⟩ := hbody.unique hbody' (List.cons.inj htext).2
          rw [String.toList_injective hvalue, ih _ (List.append_cancel_left heq) hrest']

end Reading

/-! ## Writing literals -/

/-- What is written between the quotes. -/
def literalBody (s : String) : List Char := s.toList.flatMap escapeLiteralChar

theorem toList_quoteLiteral (s : String) :
    (quoteLiteral s).toList = '\'' :: literalBody s ++ ['\''] := by
  simp [quoteLiteral, literalBody]

theorem escapeLiteralChar_of_ne {c : Char} (hslash : c ≠ '\\') (hquote : c ≠ '\'') :
    escapeLiteralChar c = [c] := by
  rw [escapeLiteralChar, if_neg hslash, if_neg hquote]

theorem spells_flatMap (cs : List Char) : Spells (cs.flatMap escapeLiteralChar) cs := by
  induction cs with
  | nil => exact .nil
  | cons c rest ih =>
      rw [List.flatMap_cons]
      by_cases hslash : c = '\\'
      · subst hslash
        exact .escape rfl ih
      · by_cases hquote : c = '\''
        · subst hquote
          exact .escape rfl ih
        · rw [escapeLiteralChar_of_ne hslash hquote]
          exact .plain hquote hslash ih

/-- Escaping adds no character that ends a line, and drops none. -/
theorem filter_endsLine_flatMap (cs : List Char) :
    (cs.flatMap escapeLiteralChar).filter endsLine = cs.filter endsLine := by
  induction cs with
  | nil => rfl
  | cons c rest ih =>
      rw [List.flatMap_cons, List.filter_append, ih]
      by_cases hslash : c = '\\'
      · subst hslash
        rfl
      · by_cases hquote : c = '\''
        · subst hquote
          rfl
        · rw [escapeLiteralChar_of_ne hslash hquote, ← List.filter_append, List.singleton_append]

/-- What is written for a string is a literal just when the string stays on its line. -/
theorem isLiteral_quoteLiteral_iff {s value : String} :
    IsLiteral (quoteLiteral s) value ↔ value = s ∧ ∀ c ∈ s.toList, ¬ endsLine c := by
  have hspells : Spells (literalBody s) s.toList := spells_flatMap s.toList
  have hlines : (∀ c ∈ literalBody s, ¬ endsLine c) ↔ ∀ c ∈ s.toList, ¬ endsLine c := by
    rw [← List.filter_eq_nil_iff, ← List.filter_eq_nil_iff, literalBody, filter_endsLine_flatMap]
  constructor
  · rintro ⟨body, htext, hbody, hline⟩
    rw [toList_quoteLiteral] at htext
    obtain ⟨rfl, hvalue, -⟩ := hspells.unique hbody (List.cons.inj htext).2
    exact ⟨(String.toList_injective hvalue).symm, hlines.1 hline⟩
  · rintro ⟨rfl, hline⟩
    exact ⟨_, toList_quoteLiteral _, hspells, hlines.2 hline⟩

/-- Literals with a separator between them list their strings. -/
theorem lists_intercalate (separator : String) (values : List String) :
    Separated separator.toList (separator.intercalate (values.map quoteLiteral)).toList values := by
  rw [String.toList_intercalate, List.map_map]
  induction values with
  | nil => exact .nil
  | cons s rest ih =>
      have hs : Spells (literalBody s) s.toList := spells_flatMap s.toList
      cases rest with
      | nil =>
          rw [List.map_singleton, List.intercalate_singleton, Function.comp_apply, toList_quoteLiteral]
          exact .single hs
      | cons next rest =>
          rw [List.map_cons, List.map_cons, List.intercalate_cons_cons, Function.comp_apply,
            toList_quoteLiteral, ← List.map_cons, List.append_assoc, List.append_assoc]
          exact .cons hs ih

theorem render_strings (lang : Language) (values : List String) :
    (literals (values.map .string)).render lang = match lang with
      | .typescript => " | ".intercalate (values.map quoteLiteral)
      | .python => "Literal[" ++ ", ".intercalate (values.map quoteLiteral) ++ "]" := by
  have hliterals : (values.map Json.string).map (literal lang) = values.map quoteLiteral := by
    rw [List.map_map]
    exact List.map_congr_left fun _ _ => rfl
  rw [← hliterals]
  cases lang <;> rfl

/-- The type of one of some strings falls into the literals of these in one way. -/
theorem listsStrings_iff {lang : Language} {values values' : List String} :
    ListsStrings lang ((literals (values.map .string)).render lang) values' ↔ values' = values := by
  rw [render_strings]
  cases lang with
  | typescript =>
      have hlists := lists_intercalate " | " values
      show Separated _ (" | ".intercalate (values.map quoteLiteral)).toList values' ↔ _
      constructor
      · intro h
        exact h.unique hlists
      · rintro rfl
        exact hlists
  | python =>
      have hlists := lists_intercalate ", " values
      show (∃ inner : String, "Literal[" ++ ", ".intercalate (values.map quoteLiteral) ++ "]" = _ ∧ _) ↔ _
      constructor
      · rintro ⟨inner, htext, hinner⟩
        have hchars := congrArg String.toList htext
        simp only [String.toList_append, List.append_assoc] at hchars
        rw [← List.append_cancel_right (List.append_cancel_left hchars)] at hinner
        exact hinner.unique hlists
      · rintro rfl
        exact ⟨_, rfl, hlists⟩

/-- What is written for a string stands between quotes, is read back as that string and no other, and
    differs from what is written for any other; the type of some strings falls into literals for these in
    one way. The characters that end a line are left as they are, so that the literal is well-formed just
    when the string has none. -/
theorem literal_string_spells (lang : Language) (s : String) :
    (∃ body, (literal lang (.string s)).toList = '\'' :: body ++ ['\''] ∧
      (∀ value, Spells body value ↔ value = s.toList) ∧
      body.filter endsLine = s.toList.filter endsLine) ∧
    (∀ value, IsLiteral (literal lang (.string s)) value ↔
      value = s ∧ ∀ c ∈ s.toList, ¬ endsLine c) ∧
    (∀ t, literal lang (.string s) = literal lang (.string t) ↔ s = t) ∧
    ∀ values values', ListsStrings lang ((literals (values.map .string)).render lang) values' ↔
      values' = values := by
  have hspells : Spells (literalBody s) s.toList := spells_flatMap s.toList
  have hliteral : ∀ t, literal lang (.string t) = quoteLiteral t := fun _ => rfl
  simp only [hliteral]
  refine ⟨⟨_, toList_quoteLiteral s, fun value => ?_, filter_endsLine_flatMap _⟩,
    fun value => isLiteral_quoteLiteral_iff, fun t => ⟨fun heq => ?_, fun h => h ▸ rfl⟩,
    fun values values' => listsStrings_iff⟩
  · exact ⟨fun h => h.value_eq hspells, fun h => h ▸ hspells⟩
  · have hbodies := congrArg String.toList heq
    rw [toList_quoteLiteral, toList_quoteLiteral] at hbodies
    obtain ⟨-, hvalue, -⟩ := hspells.unique (spells_flatMap t.toList) (List.cons.inj hbodies).2
    exact String.toList_injective hvalue

/-- A string that goes over two lines is written as no literal at all. -/
theorem not_isLiteral_twoLines :
    (¬ ∃ value, IsLiteral (literal .typescript (.string "on\noff")) value) ∧
      ¬ ∃ value, IsLiteral (literal .python (.string "on\noff")) value := by
  have hnone : ¬ ∃ value, IsLiteral (quoteLiteral "on\noff") value := by
    rintro ⟨value, h⟩
    exact (isLiteral_quoteLiteral_iff.1 h).2 '\n' (by decide) rfl
  exact ⟨hnone, hnone⟩

end TypeExpr

end OpenApi
