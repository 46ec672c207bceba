import Gatekeeper.Text.Lines

/-!
# First lines

The first of some lines is a prefix that ends at the first line feed, or everything where there is
none (`lines_eq_cons`), so what stands behind that line feed has no part in it (`firstLine_append`).

What a line carries is the line without its end. `Carries` tells the three ways apart in which a
line can end, and they exclude each other: `withoutLineEnd` finds what a line carries and nothing
else (`carries_iff`). Only one carriage return belongs to a line end, and only in front of a line
feed.
-/

namespace Gatekeeper.Text

/-! ## Bytes -/

/-- The bytes up to the first line feed, with it, or all of them where there is none. -/
def firstLine (bs : List UInt8) : List UInt8 :=
  bs.takeWhile (· ≠ lineFeed) ++ (bs.dropWhile (· ≠ lineFeed)).take 1

theorem firstLine_cons (b : UInt8) (bs : List UInt8) :
    firstLine (b :: bs) = if b = lineFeed then [b] else b :: firstLine bs := by
  by_cases h : b = lineFeed
  · rw [if_pos h, firstLine, List.takeWhile_cons_of_neg (by simpa using h),
      List.dropWhile_cons_of_neg (by simpa using h)]
    rfl
  · rw [if_neg h, firstLine, List.takeWhile_cons_of_pos (by simpa using h),
      List.dropWhile_cons_of_pos (by simpa using h), List.cons_append, ← firstLine]

theorem firstLine_append {l : List UInt8} (h : lineFeed ∉ l) (t : List UInt8) :
    firstLine (l ++ lineFeed :: t) = l ++ [lineFeed] := by
  induction l with
  | nil => rw [List.nil_append, firstLine_cons, if_pos rfl, List.nil_append]
  | cons b l ih =>
    have head : b ≠ lineFeed := fun hb => h (hb ▸ List.mem_cons_self)
    have tail : lineFeed ∉ l := fun hl => h (List.mem_cons_of_mem _ hl)
    rw [List.cons_append, firstLine_cons, if_neg head, ih tail, List.cons_append]

/-- **Where there are bytes**, the first line of them is the first of their lines. -/
theorem lines_eq_cons {bs : List UInt8} (h : bs ≠ []) :
    ∃ rest, lines bs = firstLine bs :: rest := by
  induction bs with
  | nil => exact absurd rfl h
  | cons b bs ih =>
    rw [lines, firstLine_cons]
    split
    · exact ⟨_, rfl⟩
    · by_cases hbs : bs = []
      · subst hbs
        exact ⟨[], rfl⟩
      · obtain ⟨rest, whole⟩ := ih hbs
        rw [whole]
        exact ⟨rest, rfl⟩

/-! ## What a line carries -/

/-- The line carries the text: it is the text with a line end behind it, or the text alone when
the line is cut off before its end. -/
inductive Carries : List Char → List Char → Prop
  | crlf (p : List Char) : Carries (p ++ ['\r', '\n']) p
  | lf {p : List Char} (h : p.getLast? ≠ some '\r') : Carries (p ++ ['\n']) p
  | cut {p : List Char} (h : p.getLast? ≠ some '\n') : Carries p p

variable {cs p : List Char}

theorem withoutLineEnd_crlf (p : List Char) : withoutLineEnd (p ++ ['\r', '\n']) = p := by
  have reversed : (p ++ ['\r', '\n']).reverse = '\n' :: '\r' :: p.reverse := by
    rw [List.reverse_append]
    rfl
  rw [withoutLineEnd, reversed]
  exact List.reverse_reverse p

theorem withoutLineEnd_lf (h : p.getLast? ≠ some '\r') : withoutLineEnd (p ++ ['\n']) = p := by
  have reversed : (p ++ ['\n']).reverse = '\n' :: p.reverse := by
    rw [List.reverse_append]
    rfl
  rw [List.getLast?_eq_head?_reverse] at h
  rw [withoutLineEnd, reversed]
  split
  · rename_i hc
    rw [(List.cons.inj hc).2] at h
    exact absurd rfl h
  · rename_i hc
    rw [← (List.cons.inj hc).2]
    exact List.reverse_reverse p
  · rename_i hc
    exact absurd rfl (hc _)

theorem withoutLineEnd_of_cut (h : p.getLast? ≠ some '\n') : withoutLineEnd p = p := by
  rw [List.getLast?_eq_head?_reverse] at h
  unfold withoutLineEnd
  split
  · rename_i hc
    rw [hc] at h
    exact absurd rfl h
  · rename_i hc
    rw [hc] at h
    exact absurd rfl h
  · rfl

theorem carries_withoutLineEnd (cs : List Char) : Carries cs (withoutLineEnd cs) := by
  by_cases h : cs.getLast? = some '\n'
  · obtain ⟨p, rfl⟩ := List.getLast?_eq_some_iff.1 h
    by_cases hp : p.getLast? = some '\r'
    · obtain ⟨q, rfl⟩ := List.getLast?_eq_some_iff.1 hp
      rw [List.append_assoc, List.singleton_append, withoutLineEnd_crlf]
      exact Carries.crlf q
    · rw [withoutLineEnd_lf hp]
      exact Carries.lf hp
  · rw [withoutLineEnd_of_cut h]
    exact Carries.cut h

/-- **Every line carries one text**, and that is found. -/
theorem carries_iff : Carries cs p ↔ withoutLineEnd cs = p := by
  constructor
  · intro h
    cases h with
    | crlf => exact withoutLineEnd_crlf p
    | lf h => exact withoutLineEnd_lf h
    | cut h => exact withoutLineEnd_of_cut h
  · rintro rfl
    exact carries_withoutLineEnd cs

end Gatekeeper.Text
