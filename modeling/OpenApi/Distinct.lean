set_option autoImplicit false

/-! # Lists without repetitions -/

namespace OpenApi

variable {α : Type} [DecidableEq α]

/-- The members of a list without repetitions, in order of their first arrival. -/
def distinct : List α → List α
  | [] => []
  | a :: as => a :: (distinct as).filter (· ≠ a)

theorem mem_distinct {a : α} {as : List α} : a ∈ distinct as ↔ a ∈ as := by
  induction as with
  | nil => simp [distinct]
  | cons b bs ih => by_cases h : a = b <;> simp [distinct, ih, h]

theorem nodup_distinct (as : List α) : (distinct as).Nodup := by
  induction as with
  | nil => exact List.nodup_nil
  | cons a as ih => exact List.nodup_cons.2 ⟨by simp, ih.filter _⟩

/-- Among members with distinct keys, the one of a key is found. -/
theorem find?_eq_some_iff_of_nodup {β : Type} {key : β → α} {bs : List β} (h : (bs.map key).Nodup)
    {a : α} {b : β} : bs.find? (key · = a) = some b ↔ b ∈ bs ∧ key b = a := by
  induction bs with
  | nil => simp
  | cons c bs ih =>
      obtain ⟨hc, hbs⟩ := List.nodup_cons.1 h
      have hne : ∀ b ∈ bs, key b ≠ key c := fun b hb he => hc (List.mem_map.2 ⟨b, hb, he⟩)
      rw [List.find?_cons]
      split
      · next hkey =>
          have hkey : key c = a := of_decide_eq_true hkey
          constructor
          · rintro ⟨⟩
            exact ⟨List.mem_cons_self, hkey⟩
          · rintro ⟨hb, he⟩
            rcases List.mem_cons.1 hb with rfl | hb
            · rfl
            · exact absurd (he.trans hkey.symm) (hne b hb)
      · next hkey =>
          have hkey : key c ≠ a := of_decide_eq_false hkey
          rw [ih hbs, List.mem_cons]
          refine and_congr_left fun he => (or_iff_right ?_).symm
          rintro rfl
          exact hkey he

end OpenApi
