import Mathlib.Data.Nat.Digits.Defs
import Mathlib.Tactic.IntervalCases
import OpenApi.Operation.ResponseCode

set_option autoImplicit false

/-! # What codes the keys of responses denote, and which of them is the result

`Denotes` reads a key, `Before` orders codes, and `IsResult` says which of the declared codes is the
result, each without regard to how it is computed. `ofKey?_eq_some_iff`, `le_iff` and
`isResult_result?` are the statements that the computations do just this. The last one needs the codes
in order: the result is the least status that says success, but what is looked for is the first. -/

namespace OpenApi

namespace ResponseCode

/-! ## Keys -/

/-- A key denotes a code. -/
inductive Denotes : String → ResponseCode → Prop
  | default : Denotes "default" .default
  /-- A digit from one to five and two more digits are a status. -/
  | status {a b c : Nat} : 1 ≤ a → a ≤ 5 → b ≤ 9 → c ≤ 9 →
      Denotes (String.ofList [a.digitChar, b.digitChar, c.digitChar])
        (.status (100 * a + 10 * b + c))
  /-- A digit from one to five and two letters that stand for any digit are a range. -/
  | range {a : Nat} {x y : Char} : 1 ≤ a → a ≤ 5 → x ∈ ['x', 'X'] → y ∈ ['x', 'X'] →
      Denotes (String.ofList [a.digitChar, x, y]) (.range a)

theorem digit_digitChar {n : Nat} (h : n ≤ 9) : digit n.digitChar = n := by
  interval_cases n <;> rfl

theorem isDigit_digitChar {n : Nat} (h : n ≤ 9) : n.digitChar.isDigit = true := by
  interval_cases n <;> rfl

theorem isWildcard_digitChar {n : Nat} (h : n ≤ 9) : isWildcard n.digitChar = false := by
  interval_cases n <;> rfl

theorem isWildcard_eq_true_iff {c : Char} : isWildcard c = true ↔ c ∈ ['x', 'X'] := by
  simp [isWildcard]

/-- A digit is the one of its value. -/
theorem digitChar_digit {c : Char} (h : c.isDigit = true) : digit c ≤ 9 ∧ (digit c).digitChar = c := by
  have hcode : 48 ≤ c.toNat ∧ c.toNat ≤ 57 := by
    simp only [Char.isDigit, Bool.and_eq_true, decide_eq_true_eq, UInt32.le_iff_toNat_le,
      ge_iff_le] at h
    exact h
  have hall : ∀ n, n < 58 → 48 ≤ n →
      digit (Char.ofNat n) ≤ 9 ∧ (digit (Char.ofNat n)).digitChar = Char.ofNat n := by decide
  have hc := hall c.toNat (Nat.lt_succ_of_le hcode.2) hcode.1
  rwa [Char.ofNat_toNat] at hc

/-- A first digit is one from one to five. -/
theorem digitChar_first {c : Char} (h : '1' ≤ c ∧ c ≤ '5') :
    1 ≤ digit c ∧ digit c ≤ 5 ∧ (digit c).digitChar = c := by
  have hcode : 49 ≤ c.toNat ∧ c.toNat ≤ 53 := h
  have hall : ∀ n, n < 54 → 49 ≤ n → 1 ≤ digit (Char.ofNat n) ∧ digit (Char.ofNat n) ≤ 5 ∧
      (digit (Char.ofNat n)).digitChar = Char.ofNat n := by decide
  have hc := hall c.toNat (Nat.lt_succ_of_le hcode.2) hcode.1
  rwa [Char.ofNat_toNat] at hc

theorem first_digitChar {n : Nat} (h₁ : 1 ≤ n) (h₅ : n ≤ 5) :
    '1' ≤ n.digitChar ∧ n.digitChar ≤ '5' := by
  interval_cases n <;> decide

/-- The code of a key is the one that it denotes. -/
theorem ofKey?_eq_some_iff {key : String} {code : ResponseCode} :
    ofKey? key = some code ↔ Denotes key code := by
  constructor
  · intro h
    unfold ofKey? at h
    split at h
    · next hkey =>
        cases h
        exact hkey ▸ .default
    · split at h
      · next a b c hkey =>
          obtain rfl : key = String.ofList [a, b, c] := by rw [← hkey, String.ofList_toList]
          split at h
          · next hfirst =>
              obtain ⟨h₁, h₅, ha⟩ := digitChar_first hfirst
              split at h
              · next hletters =>
                  cases h
                  rw [Bool.and_eq_true, isWildcard_eq_true_iff, isWildcard_eq_true_iff] at hletters
                  have hrange := Denotes.range h₁ h₅ hletters.1 hletters.2
                  rwa [ha] at hrange
              · split at h
                · next hdigits =>
                    cases h
                    rw [Bool.and_eq_true] at hdigits
                    obtain ⟨hb, hb'⟩ := digitChar_digit hdigits.1
                    obtain ⟨hc, hc'⟩ := digitChar_digit hdigits.2
                    have hstatus := Denotes.status h₁ h₅ hb hc
                    rwa [ha, hb', hc'] at hstatus
                · cases h
          · cases h
      · cases h
  · intro h
    have hdefault : ∀ a b c : Char, String.ofList [a, b, c] ≠ "default" := fun a b c heq => by
      have hlength := congrArg String.length heq
      rw [String.length_ofList] at hlength
      exact absurd (show (3 : Nat) = "default".length from hlength) (by decide)
    cases h with
    | default => rfl
    | status h₁ h₅ hb hc =>
        rw [ofKey?, if_neg (hdefault _ _ _), String.toList_ofList]
        simp only [first_digitChar h₁ h₅, isWildcard_digitChar hb, isDigit_digitChar hb,
          isDigit_digitChar hc, digit_digitChar hb, digit_digitChar hc,
          digit_digitChar (Nat.le_trans h₅ (by decide)), and_self, if_true, Bool.false_and,
          Bool.false_eq_true, if_false, Bool.and_self]
    | range h₁ h₅ hx hy =>
        rw [ofKey?, if_neg (hdefault _ _ _), String.toList_ofList]
        simp only [first_digitChar h₁ h₅, isWildcard_eq_true_iff.2 hx, isWildcard_eq_true_iff.2 hy,
          digit_digitChar (Nat.le_trans h₅ (by decide)), and_self, if_true, Bool.and_self]

/-! ## The order of codes -/

/-- One code comes before another. -/
inductive Before : ResponseCode → ResponseCode → Prop
  | status {a b : Nat} : a < b → Before (.status a) (.status b)
  | range {a b : Nat} : a < b → Before (.range a) (.range b)
  /-- A status comes before the range of its hundred, and before all higher ones. -/
  | hundred {a b : Nat} : a / 100 ≤ b → Before (.status a) (.range b)
  /-- A range comes before the statuses of higher hundreds. -/
  | higher {a b : Nat} : a < b / 100 → Before (.range a) (.status b)
  | default {a : ResponseCode} : a ≠ .default → Before a .default

theorem le_iff {a b : ResponseCode} : a.le b = true ↔ a = b ∨ Before a b := by
  constructor
  · intro h
    cases a <;> cases b <;> simp only [le, decide_eq_true_eq, Bool.false_eq_true] at h
    · rcases Nat.eq_or_lt_of_le h with rfl | h
      · exact .inl rfl
      · exact .inr (.status h)
    · exact .inr (.hundred (by omega))
    · exact .inr (.default (by simp))
    · exact .inr (.higher (by omega))
    · rcases Nat.eq_or_lt_of_le h with rfl | h
      · exact .inl rfl
      · exact .inr (.range h)
    · exact .inr (.default (by simp))
    · exact .inl rfl
  · rintro (rfl | h)
    · cases a <;> simp [le]
    · cases h <;> simp [le] <;> omega

/-! ## The result -/

/-- A status that says that the request was fulfilled is among the declared codes. -/
structure Fulfils (declared : ResponseCode → Prop) (n : Nat) : Prop where
  declared : declared (.status n)
  low : 200 ≤ n
  high : n < 300

/-- The result among the declared codes. -/
inductive IsResult (declared : ResponseCode → Prop) : Option ResponseCode → Prop
  | status {n : Nat} : Fulfils declared n → (∀ m, Fulfils declared m → n ≤ m) →
      IsResult declared (some (.status n))
  | range : (∀ m, ¬ Fulfils declared m) → declared (.range 2) → IsResult declared (some (.range 2))
  | default : (∀ m, ¬ Fulfils declared m) → ¬ declared (.range 2) → declared .default →
      IsResult declared (some .default)
  | none : (∀ m, ¬ Fulfils declared m) → ¬ declared (.range 2) → ¬ declared .default →
      IsResult declared none

/-- There is one result. -/
theorem IsResult.unique {declared : ResponseCode → Prop} {r r' : Option ResponseCode}
    (h : IsResult declared r) (h' : IsResult declared r') : r = r' := by
  cases h with
  | status hn hleast => cases h' with
    | status hm hleast' => rw [Nat.le_antisymm (hleast _ hm) (hleast' _ hn)]
    | range hnone | default hnone | none hnone => exact absurd hn (hnone _)
  | range hnone hrange => cases h' with
    | status hm => exact absurd hm (hnone _)
    | range => rfl
    | default _ hrange' | none _ hrange' => exact absurd hrange hrange'
  | default hnone hrange hdefault => cases h' with
    | status hm => exact absurd hm (hnone _)
    | range _ hrange' => exact absurd hrange' hrange
    | default => rfl
    | none _ _ hdefault' => exact absurd hdefault hdefault'
  | none hnone hrange hdefault => cases h' with
    | status hm => exact absurd hm (hnone _)
    | range _ hrange' => exact absurd hrange' hrange
    | default _ _ hdefault' => exact absurd hdefault' hdefault
    | none => rfl

theorem IsResult.declared {declared : ResponseCode → Prop} {code : ResponseCode}
    (h : IsResult declared (some code)) : declared code := by
  cases h with
  | status h _ => exact h.declared
  | range _ h => exact h
  | default _ _ h => exact h

/-- The first code of a kind in a list in order is the least one. -/
theorem le_of_find? {p : ResponseCode → Bool} {codes : List ResponseCode} {code : ResponseCode}
    (h : codes.Pairwise fun a b => a.le b = true) (hfind : codes.find? p = some code) :
    ∀ c ∈ codes, p c = true → code.le c = true := by
  obtain ⟨-, before, after, rfl, hbefore⟩ := List.find?_eq_some_iff_append.1 hfind
  obtain ⟨-, hafter, -⟩ := List.pairwise_append.1 h
  intro c hc hp
  rcases List.mem_append.1 hc with hc | hc
  · have hnot := hbefore c hc
    simp [hp] at hnot
  · rcases List.mem_cons.1 hc with rfl | hc
    · exact le_iff.2 (.inl rfl)
    · exact List.rel_of_pairwise_cons hafter hc

/-- The result of codes in order. -/
theorem isResult_result? {codes : List ResponseCode} (h : codes.Pairwise fun a b => a.le b = true) :
    IsResult (· ∈ codes) (result? codes) := by
  have hfulfils : ∀ {n : Nat}, Fulfils (· ∈ codes) n ↔
      .status n ∈ codes ∧ (isStatus (.status n) && isSuccess (.status n)) = true := by
    intro n
    refine ⟨fun h => ⟨h.declared, by simp [isStatus, isSuccess, h.low, h.high]⟩, fun ⟨hn, h⟩ => ?_⟩
    obtain ⟨hlow, hhigh⟩ : 200 ≤ n ∧ n < 300 := by simpa [isStatus, isSuccess] using h
    exact ⟨hn, hlow, hhigh⟩
  unfold result?
  cases hfind : codes.find? fun c => c.isStatus && c.isSuccess with
  | some code =>
      have hcode := List.find?_some hfind
      cases code with
      | status n =>
          refine .status (hfulfils.2 ⟨List.mem_of_find?_eq_some hfind, hcode⟩) fun m hm => ?_
          obtain ⟨hmem, hm⟩ := hfulfils.1 hm
          simpa [le] using le_of_find? h hfind _ hmem hm
      | range d => cases hcode
      | default => cases hcode
  | none =>
      have hnone : ∀ m, ¬ Fulfils (· ∈ codes) m := fun m hm => by
        obtain ⟨hmem, hm⟩ := hfulfils.1 hm
        exact List.find?_eq_none.1 hfind _ hmem hm
      rw [Option.none_or]
      cases hrange : codes.find? (· = .range 2) with
      | some code =>
          obtain rfl : code = .range 2 := by simpa using List.find?_some hrange
          exact .range hnone (List.mem_of_find?_eq_some hrange)
      | none =>
          have hrange' : .range 2 ∉ codes := fun hmem => by
            simpa using List.find?_eq_none.1 hrange _ hmem
          rw [Option.none_or]
          cases hdefault : codes.find? (· = .default) with
          | some code =>
              obtain rfl : code = .default := by simpa using List.find?_some hdefault
              exact .default hnone hrange' (List.mem_of_find?_eq_some hdefault)
          | none =>
              exact .none hnone hrange' fun hmem => by
                simpa using List.find?_eq_none.1 hdefault _ hmem

end ResponseCode

end OpenApi
