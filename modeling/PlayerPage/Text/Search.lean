/-!
Cutting texts: at the first occurrence of a mark, at every separator, and by position.

* `cutAt?`: what stands before and after the first occurrence of a mark.
* `between?`: the text between the first occurrence of one mark and the next of another.
* `cutAtChar`: what stands before and after the first of one character; `cutAtChar_append` finds it.
* `pieces`: the pieces of a text between separators; `pieces_append`: a separator more separates the
  pieces of two texts.
* `replaceAll`: every occurrence of a mark replaced, from the left.
* `shorten`: a text that is too long, cut and followed by three points.
-/

namespace PlayerPage.Text

/-- What follows `mark` in a text that starts with it. -/
def after? : (mark s : List Char) → Option (List Char)
  | [], s => some s
  | _ :: _, [] => none
  | m :: mark, c :: s => if m == c then after? mark s else none

/-- What stands before and after the first occurrence of `mark`. -/
def cutAt? (mark : List Char) : List Char → Option (List Char × List Char)
  | [] => if mark.isEmpty then some ([], []) else none
  | c :: rest =>
    match after? mark (c :: rest) with
    | some after => some ([], after)
    | none => (cutAt? mark rest).map fun (before, after) => (c :: before, after)

/-- The text between the first occurrence of `opening` and the next one of `closing`. -/
def between? (opening closing s : List Char) : Option (List Char) :=
  (cutAt? opening s).bind fun (_, after) => (cutAt? closing after).map Prod.fst

/-- The text before and after the first character `sep`; all of it and nothing without one. -/
def cutAtChar (sep : Char) (s : List Char) : List Char × List Char :=
  (s.takeWhile (· != sep), (s.dropWhile (· != sep)).drop 1)

/-- A text is cut where the character stands for the first time. -/
theorem cutAtChar_append {sep : Char} {s : List Char} (h : sep ∉ s) (t : List Char) :
    cutAtChar sep (s ++ sep :: t) = (s, t) := by
  have hne : ∀ c ∈ s, (c != sep) = true := by
    intro c hc
    rw [bne_iff_ne]
    rintro rfl
    exact h hc
  rw [cutAtChar, List.takeWhile_append_of_pos hne, List.dropWhile_append_of_pos hne]
  simp

/-- Without the character there is nothing to cut. -/
theorem cutAtChar_of_not_mem {sep : Char} {s : List Char} (h : sep ∉ s) :
    cutAtChar sep s = (s, []) := by
  have hne : ∀ c ∈ s, (c != sep) = true := by
    intro c hc
    rw [bne_iff_ne]
    rintro rfl
    exact h hc
  rw [cutAtChar, ← List.append_nil s, List.takeWhile_append_of_pos hne,
    List.dropWhile_append_of_pos hne]
  simp

/-- The pieces of a text between the characters `sep`. -/
def pieces (sep : Char) : List Char → List (List Char)
  | [] => [[]]
  | c :: rest =>
    if c == sep then [] :: pieces sep rest
    else
      match pieces sep rest with
      | [] => [[c]]
      | piece :: more => (c :: piece) :: more

theorem pieces_ne_nil (sep : Char) (s : List Char) : pieces sep s ≠ [] := by
  cases s with
  | nil => simp [pieces]
  | cons c rest =>
    rw [pieces]
    split
    · simp
    · split <;> simp

/-- A separator between two texts separates their pieces. -/
theorem pieces_append (sep : Char) (s t : List Char) :
    pieces sep (s ++ sep :: t) = pieces sep s ++ pieces sep t := by
  induction s with
  | nil => simp [pieces]
  | cons c rest ih =>
    by_cases h : c = sep
    · simp [pieces, h, ih]
    · have hne := pieces_ne_nil sep rest
      rw [List.cons_append, pieces, pieces, ih]
      cases hp : pieces sep rest with
      | nil => exact absurd hp hne
      | cons p ps => simp [h]

/-- A text without separators is one piece. -/
theorem pieces_of_not_mem {sep : Char} {s : List Char} (h : sep ∉ s) : pieces sep s = [s] := by
  induction s with
  | nil => rfl
  | cons c rest ih =>
    rw [List.mem_cons, not_or] at h
    simp [pieces, ih h.2, Ne.symm h.1]

/-- No piece has a separator in it. -/
theorem not_mem_of_mem_pieces {sep : Char} {s piece : List Char} (h : piece ∈ pieces sep s) :
    sep ∉ piece := by
  induction s generalizing piece with
  | nil => simp_all [pieces]
  | cons c rest ih =>
    rw [pieces] at h
    split at h
    · rcases List.mem_cons.mp h with rfl | h
      · simp
      · exact ih h
    · next hc =>
      have hne : sep ≠ c := fun he => hc (by simp [he])
      cases hp : pieces sep rest with
      | nil => exact absurd hp (pieces_ne_nil sep rest)
      | cons p ps =>
        rw [hp] at h ih
        rcases List.mem_cons.mp h with rfl | h
        · simp [hne, ih (List.mem_cons_self ..)]
        · exact ih (List.mem_cons_of_mem _ h)

/-- Every occurrence of `mark` replaced by `new`, found from the left without overlap. An empty
mark occurs before every character and at the end. -/
def replaceAll (mark new : List Char) (s : List Char) : List Char :=
  if mark.isEmpty then new ++ s.flatMap (· :: new) else go s.length s
where
  /-- At most `steps` occurrences are replaced. -/
  go : Nat → List Char → List Char
    | 0, s => s
    | steps + 1, s =>
      match cutAt? mark s with
      | none => s
      | some (before, after) => before ++ new ++ go steps after

/-- The index from which a cut at `n` is counted: a negative one counts from the end. -/
def cutIndex (length : Nat) (n : Int) : Nat :=
  if n < 0 then (length + n).toNat else n.toNat

/-- The text, cut so that with three points after it there are `limit` characters, if it has more
than these. -/
def shorten (limit : Int) (s : List Char) : List Char :=
  if limit < s.length then s.take (cutIndex s.length (limit - 3)) ++ ['.', '.', '.'] else s

end PlayerPage.Text
