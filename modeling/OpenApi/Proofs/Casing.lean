import OpenApi.Proofs.Reachable
import OpenApi.Proofs.SafeIdentifiers

set_option autoImplicit false

/-! # Cleaning a name leaves its case forms alone

Names are cased in two ways: those of promoted schemas as they stand, and those of identifiers after
they are cleaned. What is left of a name is what one pass over its characters writes
(`sanitizeChars_eq_clean`). It has the words of the name (`words_sanitize_iff`), so that both ways
lead to the same forms for every name with a letter or number, and only for these
(`CasedName.ofString_verbatim`). -/

namespace OpenApi

namespace Text

/-! ## Forms of the same words -/

/-- A case form depends on the words only. -/
theorem forms_eq_of_words {s t : String} (h : words s.toList = words t.toList) :
    pascalCase s = pascalCase t ∧ camelCase s = camelCase t ∧ snakeCase s = snakeCase t ∧
      screamingCase s = screamingCase t ∧ kebabCase s = kebabCase t := by
  unfold pascalCase camelCase snakeCase screamingCase kebabCase
  rw [h]
  exact ⟨rfl, rfl, rfl, rfl, rfl⟩

end Text

namespace CasedName

open Text

/-! ## Cleaning in one pass -/

/-- Cleans a text in one pass, behind what is written already. A separator is written once a letter or
    number follows; `apart` says whether one has been read since the last of these. -/
def cleanFrom (written : List Char) (apart : Bool) : List Char → List Char
  | [] => written
  | c :: cs =>
      if isAlphanumeric c then
        cleanFrom (written ++ if apart && written ≠ [] then ['_', c] else [c]) false cs
      else cleanFrom written true cs

/-- Behind something written each piece has an underscore in front, but for the letters and numbers that go
    on with what is written. -/
theorem cleanFrom_of_ne_nil {written : List Char} (hw : written ≠ []) (cs : List Char) :
    cleanFrom written true cs = written ++ (pieces cs).flatMap ('_' :: ·) ∧
    ∀ s ss, segments cs = s :: ss →
      cleanFrom written false cs = written ++ s ++ (ss.filter (· ≠ [])).flatMap ('_' :: ·) := by
  induction cs generalizing written with
  | nil =>
      refine ⟨by simp [cleanFrom, pieces, segments], fun s ss hs => ?_⟩
      cases hs
      simp [cleanFrom]
  | cons c cs ih =>
      by_cases hc : isAlphanumeric c = true
      · obtain ⟨s, ss, hs⟩ := List.exists_cons_of_ne_nil (segments_ne_nil cs)
        have hrest {tail : List Char} (htail : tail ≠ []) : cleanFrom (written ++ tail) false cs =
            written ++ tail ++ s ++ (ss.filter (· ≠ [])).flatMap ('_' :: ·) :=
          (ih (List.append_ne_nil_of_right_ne_nil _ htail)).2 s ss hs
        constructor
        · simp [cleanFrom, hc, hw, hrest, pieces_cons_of_alphanumeric hc hs]
        · intro s' ss' hs'
          rw [segments_cons_of_alphanumeric hc hs] at hs'
          cases hs'
          simp [cleanFrom, hc, hrest]
      · have hsep := eq_false_of_ne_true hc
        constructor
        · rw [cleanFrom, if_neg hc, (ih hw).1, pieces_cons_of_separator hsep]
        · intro s' ss' hs'
          rw [segments_cons_of_separator hsep] at hs'
          cases hs'
          rw [cleanFrom, if_neg hc, (ih hw).1, List.append_nil, pieces]

/-- Pieces are joined by an underscore in front of each but the first. -/
theorem intercalate_pieces {c : Char} {cs s : List Char} {ss : List (List Char)}
    (hc : isAlphanumeric c = true) (hs : segments cs = s :: ss) :
    List.intercalate ['_'] (pieces (c :: cs)) =
      c :: s ++ (ss.filter (· ≠ [])).flatMap ('_' :: ·) := by
  have hjoin := Role.intercalate_map_cons id (c :: s) (ss.filter (· ≠ []))
  rwa [List.map_id, ← pieces_cons_of_alphanumeric hc hs] at hjoin

/-- At the start nothing is written for separators. -/
theorem cleanFrom_nil (apart : Bool) (cs : List Char) :
    cleanFrom [] apart cs = List.intercalate ['_'] (pieces cs) := by
  induction cs generalizing apart with
  | nil => rfl
  | cons c cs ih =>
      by_cases hc : isAlphanumeric c = true
      · obtain ⟨s, ss, hs⟩ := List.exists_cons_of_ne_nil (segments_ne_nil cs)
        have hrest := (cleanFrom_of_ne_nil (List.cons_ne_nil c []) cs).2 s ss hs
        rw [intercalate_pieces hc hs]
        simpa [cleanFrom, hc] using hrest
      · rw [cleanFrom, if_neg hc, ih, pieces_cons_of_separator (eq_false_of_ne_true hc)]

/-- Cleans a text in one pass, behind an underscore if it begins with a digit. -/
def clean (cs : List Char) : List Char :=
  cleanFrom (if cs.head?.any Char.isDigit then ['_'] else []) false cs

/-- The pieces that are left of a text are those that one pass over it writes. -/
theorem sanitizeChars_eq_clean (cs : List Char) : sanitizeChars cs = clean cs := by
  cases cs with
  | nil => rfl
  | cons c cs =>
      by_cases hdigit : c.isDigit = true
      · have hc := isAlphanumeric_of_isDigit hdigit
        obtain ⟨s, ss, hs⟩ := List.exists_cons_of_ne_nil (segments_ne_nil cs)
        have hrest := (cleanFrom_of_ne_nil (List.cons_ne_nil '_' []) (c :: cs)).2 (c :: s) ss
          (segments_cons_of_alphanumeric hc hs)
        simp [sanitizeChars, clean, hdigit, intercalate_pieces hc hs, hrest]
      · simp [sanitizeChars, clean, hdigit, cleanFrom_nil]

/-! ## Cleaned names -/

theorem sanitize_eq_clean (name : String) :
    sanitize name = if clean name.toList = [] then unnamed
      else String.ofList (clean name.toList) := by
  rw [sanitize, sanitizeChars_eq_clean]
  split
  · next hnil => rw [if_pos hnil]
  · next hne => rw [if_neg hne]

/-- A cleaned name has the words of the name, unless there are none. -/
theorem words_sanitize_iff (name : String) :
    words (sanitize name).toList = words name.toList ↔
      ∃ c ∈ name.toList, isAlphanumeric c = true := by
  have hnone : words name.toList = [] ↔ ¬ ∃ c ∈ name.toList, isAlphanumeric c = true := by
    rw [words_eq_nil_iff, List.filter_eq_nil_iff]
    simp
  constructor
  · intro h
    by_contra hno
    exact words_sanitize_ne_nil name (h.trans (hnone.2 hno))
  · intro hsome
    unfold sanitize
    split
    · next hnil =>
        refine absurd hsome (hnone.1 ?_)
        rw [words, ← pieces_sanitizeChars, hnil]
        rfl
    · rw [String.toList_ofList, words, pieces_sanitizeChars, words]

/-- The case forms of a name as it stands. -/
def verbatim (name : String) : CasedName where
  text := name
  pascal := pascalCase name
  camel := camelCase name
  snake := snakeCase name
  screaming := screamingCase name
  kebab := kebabCase name

/-- The two ways to the case forms agree on the names with a letter or number, and only on these. -/
theorem ofString_eq_verbatim_iff {name : String} :
    ofString name = verbatim name ↔ ∃ c ∈ name.toList, isAlphanumeric c = true := by
  constructor
  · intro h
    by_contra hno
    have hfilter : name.toList.filter isAlphanumeric = [] :=
      List.filter_eq_nil_iff.2 fun c hc halpha => hno ⟨c, hc, halpha⟩
    -- a name without words is cased as `unnamed` on one way and is empty on the other
    have hcleaned : (ofString name).pascal = "Unnamed" := by
      have hunnamed : pascalCase unnamed = "Unnamed" := by decide +kernel
      rw [ofString, sanitize, sanitizeChars_eq_nil hfilter]
      exact hunnamed
    have hraw : (verbatim name).pascal = "" := by
      rw [verbatim, pascalCase, words_eq_nil_iff.2 hfilter]
      rfl
    rw [h, hraw] at hcleaned
    exact absurd hcleaned (by decide)
  · intro h
    obtain ⟨hpascal, hcamel, hsnake, hscreaming, hkebab⟩ :=
      forms_eq_of_words ((words_sanitize_iff name).2 h)
    simp only [ofString, verbatim, hpascal, hcamel, hsnake, hscreaming, hkebab]

end CasedName

/-! ## Names of promoted schemas and of operations -/

namespace Build

/-- An operation is built with `scope` in front of the names of what is promoted for its parameters,
    body and responses. -/
def BuildsUnder (c : Components) (scope : String) (shared : List (RefOr ParameterSpec))
    (spec : OperationSpec) (b : Builder) (op : Operation) : Prop :=
  ∃ specs parameters bodies responses b₁ b₂ b₃,
    mergedParameters c shared spec.parameters = .ok specs ∧
    run (specs.mapM (parameter c scope)) b = (.ok parameters, b₁) ∧
    run (body c scope spec.requestBody) b₁ = (.ok bodies, b₂) ∧
    run (spec.responses.mapM fun e => response c scope op.operationId e.1 e.2) b₂
      = (.ok responses, b₃) ∧
    op.parameters = parameters ++ bodies ∧
    op.responses = responses.mergeSort fun a b => a.code.le b.code

/-- What stands in front is the name of the operation in Pascal case as it stands, while its case forms
    are those of the cleaned name. -/
theorem operation_buildsUnder {c : Components} {options : Options} {path : String} {method : Method}
    {shared : List (RefOr ParameterSpec)} {spec : OperationSpec} {op : Operation} {b b' : Builder}
    (h : run (operation c options path method shared spec) b = (.ok op, b')) :
    op.name = CasedName.ofString op.operationId ∧
      BuildsUnder c (Text.pascalCase op.operationId) shared spec b op := by
  obtain ⟨name, specs, parameters, bodies, responses, b₁, b₂, b₃, -, hspecs, h₁, h₂, h₃, -, rfl⟩ :=
    operation_ok h
  exact ⟨rfl, specs, parameters, bodies, responses, b₁, b₂, b₃, hspecs, h₁, h₂, h₃, rfl, rfl⟩

end Build

namespace CasedName

open Build Text

/-- A name is cleaned in one pass, and this leaves all its case forms alone just when the name has a letter
    or number. A schema that is promoted under such a name as its hint is therefore called by the Pascal
    case of the cleaned name, with a number behind it where that is taken, and an operation of such a
    name has the Pascal case of its case forms in front of the names of all that is promoted for it. -/
theorem ofString_verbatim (name : String) :
    (sanitize name = if clean name.toList = [] then unnamed else String.ofList (clean name.toList)) ∧
    (ofString name = verbatim name ↔ ∃ c ∈ name.toList, isAlphanumeric c = true) ∧
    ((∃ c ∈ name.toList, isAlphanumeric c = true) →
      (∀ used, freeName used name =
        if (ofString name).pascal ∈ used then numberedName (ofString name).pascal 2 used
        else (ofString name).pascal) ∧
      ∀ {c : Components} {options : Options} {path : String} {method : Method}
        {shared : List (RefOr ParameterSpec)} {spec : OperationSpec} {op : Operation}
        {b b' : Builder},
        run (operation c options path method shared spec) b = (.ok op, b') → op.operationId = name →
        op.name = ofString name ∧ BuildsUnder c op.name.pascal shared spec b op) := by
  refine ⟨sanitize_eq_clean name, ofString_eq_verbatim_iff, fun halpha => ?_⟩
  have hpascal : (ofString name).pascal = pascalCase name :=
    congrArg pascal (ofString_eq_verbatim_iff.2 halpha)
  constructor
  · intro used
    rw [hpascal]
    rfl
  · rintro c options path method shared spec op b b' h rfl
    obtain ⟨hname, hbuilds⟩ := operation_buildsUnder h
    refine ⟨hname, ?_⟩
    rw [hname, hpascal]
    exact hbuilds

/-- A name with a digit in front, separators of two kinds and a letter beyond ASCII. -/
def sizeName : String := "2nd-Größe_ofHTTPServer"

/-- An operation of that name, with a response that is promoted. -/
def sizeSpec : OperationSpec where
  operationId := some sizeName
  responses := [("200", .inline
    { content := [("application/json",
        { schema := some (.inline
            { type := some (.single .object)
              additional := some (.allowed false) }) })] })]

theorem ofString_verbatim_size : ∃ op b,
    run (operation {} {} "/size" .get [] sizeSpec) {} = (.ok op, b) ∧
    Entries.keys b.registry.named = ["2ndGrößeOfHttpServer200Response"] ∧
    sanitize sizeName = "_2nd_Größe_ofHTTPServer" ∧ ofString sizeName = verbatim sizeName ∧
    (verbatim sizeName).snake = "2nd_größe_of_http_server" ∧
    freeName ["2ndGrößeOfHttpServer"] sizeName = "2ndGrößeOfHttpServer2" ∧
    op.name = ofString sizeName ∧ BuildsUnder {} op.name.pascal [] sizeSpec {} op := by
  have halpha : ∃ c ∈ sizeName.toList, isAlphanumeric c = true := ⟨'n', by decide, by decide⟩
  obtain ⟨hcleaned, hforms, hnames⟩ := ofString_verbatim sizeName
  obtain ⟨hfree, hbuilds⟩ := hnames halpha
  have hpascal : (ofString sizeName).pascal = "2ndGrößeOfHttpServer" := by decide +kernel
  obtain ⟨op, hrun⟩ := exists_run_eq (m := operation {} {} "/size" .get [] sizeSpec) (b := {})
    (by decide +kernel)
  refine ⟨op, _, hrun, by decide +kernel, ?_, hforms.2 halpha, by decide +kernel, ?_, ?_⟩
  · rw [hcleaned]
    decide +kernel
  · rw [hfree, hpascal]
    decide +kernel
  · refine hbuilds hrun ?_
    have hid : (run (operation {} {} "/size" .get [] sizeSpec) {}).1.map (·.operationId)
        = .ok sizeName := by decide +kernel
    rw [hrun] at hid
    exact Except.ok.inj hid

end CasedName

end OpenApi
