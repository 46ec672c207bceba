/-!
# Lines of bytes

`lines` cuts bytes behind each line feed; every line keeps its line feed, and the last line may
have none. Nothing is lost (`flatten_lines`), no line is empty (`ne_nil_of_mem_lines`), and bytes
that hold a line feed begin with the part up to it (`lines_append_cons`).
-/

namespace Gatekeeper.Text

/-- The byte that ends a line. -/
def lineFeed : UInt8 := 10

/-- The lines of some bytes. -/
def lines : List UInt8 → List (List UInt8)
  | [] => []
  | b :: t =>
    if b = lineFeed then [b] :: lines t
    else
      match lines t with
      | [] => [[b]]
      | l :: ls => (b :: l) :: ls

theorem flatten_lines (bs : List UInt8) : (lines bs).flatten = bs := by
  induction bs with
  | nil => rfl
  | cons b t ih =>
    rw [lines]
    split
    · simp [ih]
    · split
      · rename_i h
        simpa [h] using ih
      · rename_i h
        rw [h] at ih
        simpa using ih

theorem ne_nil_of_mem_lines {bs l : List UInt8} (h : l ∈ lines bs) : l ≠ [] := by
  induction bs generalizing l with
  | nil => simp [lines] at h
  | cons b t ih =>
    rw [lines] at h
    split at h
    · rcases List.mem_cons.1 h with rfl | h
      · simp
      · exact ih h
    · split at h
      · simp only [List.mem_singleton] at h
        simp [h]
      · rename_i m ms hm
        rcases List.mem_cons.1 h with rfl | h
        · simp
        · exact ih (hm ▸ List.mem_cons_of_mem _ h)

theorem lines_append_cons {p : List UInt8} (h : lineFeed ∉ p) (t : List UInt8) :
    lines (p ++ lineFeed :: t) = (p ++ [lineFeed]) :: lines t := by
  induction p with
  | nil => simp [lines]
  | cons b p ih =>
    have hb : b ≠ lineFeed := fun hb => h (hb ▸ List.mem_cons_self)
    have hp : lineFeed ∉ p := fun hp => h (List.mem_cons_of_mem _ hp)
    rw [List.cons_append, lines, if_neg hb, ih hp]
    rfl

/-! ## Line ends of text -/

/-- The text without a line end at its end: a line feed, and a carriage return before one. -/
def withoutLineEnd (cs : List Char) : List Char :=
  match cs.reverse with
  | '\n' :: '\r' :: t => t.reverse
  | '\n' :: t => t.reverse
  | _ => cs

end Gatekeeper.Text
