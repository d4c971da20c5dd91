/-!
# Repetition of texts

A text a number of times over.  The text doubles from step to step, so a long repetition takes
few steps; `toList_repeated` says that this makes no difference.
-/

namespace DynamicBinding.Text

/-- A text one time after the other, `count` times. -/
def repeated (text : String) (count : Nat) : String :=
  if count = 0 then ""
  else
    let half := repeated text (count / 2)
    if count % 2 = 0 then half ++ half else half ++ half ++ text
termination_by count

/-- A repetition holds the characters of the text as often. -/
theorem toList_repeated (text : String) (count : Nat) :
    (repeated text count).toList = (List.replicate count text.toList).flatten := by
  fun_induction repeated text count with
  | case1 => simp
  | case2 count _ half even ih =>
    obtain ⟨n, rfl⟩ : ∃ n, count = n + n := ⟨count / 2, by omega⟩
    have h : (n + n) / 2 = n := by omega
    rw [h] at ih
    simp [half, h, ih, ← List.replicate_append_replicate]
  | case3 count _ half odd ih =>
    obtain ⟨n, rfl⟩ : ∃ n, count = n + n + 1 := ⟨count / 2, by omega⟩
    have h : (n + n + 1) / 2 = n := by omega
    rw [h] at ih
    simp [half, h, ih, ← List.replicate_append_replicate]

end DynamicBinding.Text
