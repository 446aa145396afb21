set_option autoImplicit false

/-! # Response codes

A response is declared for one status, for a range of a hundred such as `2XX`, or by default. Codes are
ordered by `le`: a status comes before the range that it lies in, and the default comes last. -/

namespace OpenApi

/-- What a response is declared for. -/
inductive ResponseCode where
  | status (code : Nat)
  /-- All statuses that start with the digit. -/
  | range (digit : Nat)
  | default
  deriving DecidableEq, Repr, Inhabited

namespace ResponseCode

/-- Whether a character stands for any digit. -/
def isWildcard (c : Char) : Bool := c = 'x' || c = 'X'

/-- The value of a decimal digit. -/
def digit (c : Char) : Nat := c.toNat - '0'.toNat

/-- The code of a key of a response map. -/
def ofKey? (key : String) : Option ResponseCode :=
  if key = "default" then some .default
  else match key.toList with
    | [a, b, c] =>
        if '1' ≤ a ∧ a ≤ '5' then
          if isWildcard b && isWildcard c then some (.range (digit a))
          else if b.isDigit && c.isDigit then
            some (.status (100 * digit a + 10 * digit b + digit c))
          else none
        else none
    | _ => none

/-- The text of a code. -/
def text : ResponseCode → String
  | .status code => toString code
  | .range digit => toString digit ++ "XX"
  | .default => "default"

/-- The order of codes: a range counts as just after its greatest status. -/
def le : ResponseCode → ResponseCode → Bool
  | _, .default => true
  | .default, _ => false
  | .status a, .status b => a ≤ b
  | .range a, .range b => a ≤ b
  | .status a, .range b => a ≤ 100 * b + 99
  | .range a, .status b => 100 * a + 99 < b

theorem le_total (a b : ResponseCode) : (a.le b || b.le a) = true := by
  cases a <;> cases b <;> simp [le] <;> omega

theorem le_trans (a b c : ResponseCode) : a.le b = true → b.le c = true → a.le c = true := by
  intro hab hbc
  cases a <;> cases b <;> cases c <;>
    simp only [le, decide_eq_true_eq, Bool.false_eq_true] at hab hbc ⊢ <;> omega

/-- Whether the code says that the request was fulfilled. -/
def isSuccess : ResponseCode → Bool
  | .status code => 200 ≤ code && code < 300
  | .range digit => digit = 2
  | .default => false

/-- Whether the code is a single status. -/
def isStatus : ResponseCode → Bool
  | .status _ => true
  | _ => false

/-- The code that stands for the result of an operation: the first single status that says success, else
    the range of these, else the default. -/
def result? (codes : List ResponseCode) : Option ResponseCode :=
  (codes.find? fun c => c.isStatus && c.isSuccess).or <|
    (codes.find? (· = .range 2)).or (codes.find? (· = .default))

end ResponseCode

end OpenApi
