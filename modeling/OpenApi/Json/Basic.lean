import OpenApi.Entries
import OpenApi.Number.Double

set_option autoImplicit false

/-! # JSON values

`Json` is a value as written: an object is the list of its entries in order. Two values are equal as
JSON when they differ in the order of entries and the sign of zero alone; `Json.canonical` is the
representative of that relation and `Json.equal` compares by it. -/

namespace OpenApi

/-- A number. An integer within 64 bits keeps its exact value; any other number is a double. -/
inductive Number where
  | int (n : Int)
  | double (x : Double)
  deriving DecidableEq, Repr, Inhabited

/-- The number with zero written without a sign. -/
def Number.canonical : Number → Number
  | .int n => .int n
  | .double x => .double (if x.mantissa = 0 then Double.zero false else x)

/-- Whether an integer fits a signed or an unsigned 64-bit word. -/
def Number.fitsWord (n : Int) : Bool := -(Nat.pow 2 63 : Int) ≤ n && n < Nat.pow 2 64

/-- A JSON value. -/
inductive Json where
  | null
  | bool (b : Bool)
  | number (n : Number)
  | string (s : String)
  | array (items : List Json)
  | object (entries : List (String × Json))
  deriving Repr, Inhabited

namespace Json

/-! ## Decidable equality -/

mutual

/-- Identity of two values as written. -/
def beq : Json → Json → Bool
  | null, null => true
  | bool a, bool b => a = b
  | number a, number b => a = b
  | string a, string b => a = b
  | array xs, array ys => beqItems xs ys
  | object es, object fs => beqEntries es fs
  | _, _ => false

/-- Identity of two lists of values. -/
def beqItems : List Json → List Json → Bool
  | [], [] => true
  | x :: xs, y :: ys => beq x y && beqItems xs ys
  | _, _ => false

/-- Identity of two lists of entries. -/
def beqEntries : List (String × Json) → List (String × Json) → Bool
  | [], [] => true
  | (k, x) :: es, (l, y) :: fs => k = l && beq x y && beqEntries es fs
  | _, _ => false

end

mutual

theorem eq_of_beq : ∀ {a b : Json}, beq a b = true → a = b
  | null, b, h => by cases b <;> simp_all [beq]
  | bool _, b, h => by cases b <;> simp_all [beq]
  | number _, b, h => by cases b <;> simp_all [beq]
  | string _, b, h => by cases b <;> simp_all [beq]
  | array xs, b, h => by
      cases b with
      | array ys =>
          simp only [beq] at h
          rw [eq_of_beqItems h]
      | _ => simp [beq] at h
  | object es, b, h => by
      cases b with
      | object fs =>
          simp only [beq] at h
          rw [eq_of_beqEntries h]
      | _ => simp [beq] at h

theorem eq_of_beqItems : ∀ {xs ys : List Json}, beqItems xs ys = true → xs = ys
  | [], ys, h => by cases ys <;> simp_all [beqItems]
  | x :: xs, ys, h => by
      cases ys with
      | nil => simp [beqItems] at h
      | cons y ys =>
          simp only [beqItems, Bool.and_eq_true] at h
          rw [eq_of_beq h.1, eq_of_beqItems h.2]

theorem eq_of_beqEntries : ∀ {es fs : List (String × Json)}, beqEntries es fs = true → es = fs
  | [], fs, h => by cases fs <;> simp_all [beqEntries]
  | (k, x) :: es, fs, h => by
      cases fs with
      | nil => simp [beqEntries] at h
      | cons f fs =>
          obtain ⟨l, y⟩ := f
          simp only [beqEntries, Bool.and_eq_true, decide_eq_true_eq] at h
          rw [h.1.1, eq_of_beq h.1.2, eq_of_beqEntries h.2]

end

mutual

theorem beq_self : ∀ a : Json, beq a a = true
  | null => rfl
  | bool _ => by simp [beq]
  | number _ => by simp [beq]
  | string _ => by simp [beq]
  | array xs => by simp [beq, beqItems_self xs]
  | object es => by simp [beq, beqEntries_self es]

theorem beqItems_self : ∀ xs : List Json, beqItems xs xs = true
  | [] => rfl
  | x :: xs => by simp [beqItems, beq_self x, beqItems_self xs]

theorem beqEntries_self : ∀ es : List (String × Json), beqEntries es es = true
  | [] => rfl
  | (_, x) :: es => by simp [beqEntries, beq_self x, beqEntries_self es]

end

instance : DecidableEq Json := fun a b =>
  if h : beq a b = true then isTrue (eq_of_beq h)
  else isFalse fun he => h (he ▸ beq_self a)

/-! ## Equality as JSON -/

mutual

/-- The same value with the entries of every object sorted by key and zero without a sign. -/
def canonical : Json → Json
  | number n => number n.canonical
  | array xs => array (canonicalItems xs)
  | object es => object ((canonicalEntries es).mergeSort fun e f => e.1 ≤ f.1)
  | v => v

/-- The items in canonical form. -/
def canonicalItems : List Json → List Json
  | [] => []
  | x :: xs => canonical x :: canonicalItems xs

/-- The entries with their values in canonical form. -/
def canonicalEntries : List (String × Json) → List (String × Json)
  | [] => []
  | (k, x) :: es => (k, canonical x) :: canonicalEntries es

end

/-- Equality of JSON values: the order of entries and the sign of zero make no difference. -/
def equal (a b : Json) : Bool := a.canonical = b.canonical

@[simp] theorem equal_refl (a : Json) : equal a a = true := by simp [equal]

theorem equal_comm (a b : Json) : equal a b = equal b a := by simp [equal, eq_comm]

theorem equal_trans {a b c : Json} (hab : equal a b = true) (hbc : equal b c = true) :
    equal a c = true := by simp_all [equal]

/-! ## Access -/

/-- The value of a member, when the value is an object that has it. -/
def member? : Json → String → Option Json
  | object es, key => Entries.get? es key
  | _, _ => none

/-- The text of a string value. -/
def string? : Json → Option String
  | string s => some s
  | _ => none

/-- The value of a boolean. -/
def bool? : Json → Option Bool
  | bool b => some b
  | _ => none

/-- An array of strings. -/
def ofStrings (ss : List String) : Json := array (ss.map string)

/-- A natural number. -/
def ofNat (n : Nat) : Json := number (.int n)

end Json

end OpenApi
