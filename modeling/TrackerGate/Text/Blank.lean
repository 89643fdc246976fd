/-!
# Blank characters

Names that come from people or from configuration are trimmed before they are
read. What counts as blank is Unicode's `White_Space` property, a set of twenty
five code points that is wider than the ASCII blanks and that leaves out the
zero-width space and the byte order mark.
-/

namespace TrackerGate

namespace Text

def isBlank (c : Char) : Bool :=
  let n := c.toNat
  (0x09 ≤ n && n ≤ 0x0D) || n == 0x20 || n == 0x85 || n == 0xA0 || n == 0x1680
    || (0x2000 ≤ n && n ≤ 0x200A) || n == 0x2028 || n == 0x2029 || n == 0x202F
    || n == 0x205F || n == 0x3000

/-- `cs` without the blanks at either end. -/
def trimChars (cs : List Char) : List Char :=
  ((cs.dropWhile isBlank).reverse.dropWhile isBlank).reverse

def trim (s : String) : String := String.ofList (trimChars s.toList)

/-- `s` with the ASCII capitals made small and every other character kept. -/
def lowerAscii (s : String) : String := String.ofList (s.toList.map Char.toLower)

/-- The pieces of a list between the occurrences of `sep`; always at least one. -/
def pieces {α : Type} [DecidableEq α] (sep : α) : List α → List (List α)
  | [] => [[]]
  | c :: cs =>
      match pieces sep cs with
      | [] => [[c]]
      | p :: ps => if c = sep then [] :: p :: ps else (c :: p) :: ps

theorem pieces_ne_nil {α : Type} [DecidableEq α] (sep : α) (cs : List α) :
    pieces sep cs ≠ [] := by
  cases cs with
  | nil => simp [pieces]
  | cons c cs =>
      rw [pieces]
      split
      · simp
      · split <;> simp

theorem pieces_of_not_mem {α : Type} [DecidableEq α] {sep : α} {cs : List α} (h : sep ∉ cs) :
    pieces sep cs = [cs] := by
  induction cs with
  | nil => rfl
  | cons c cs ih =>
      rw [List.mem_cons, not_or] at h
      rw [pieces, ih h.2]
      exact if_neg (Ne.symm h.1)

/-- What stands in front of the first `sep` is the first piece. -/
theorem pieces_append_cons {α : Type} [DecidableEq α] {sep : α} {front : List α} (h : sep ∉ front)
    (back : List α) : pieces sep (front ++ sep :: back) = front :: pieces sep back := by
  induction front with
  | nil =>
      cases hback : pieces sep back with
      | nil => exact absurd hback (pieces_ne_nil sep back)
      | cons p ps =>
          rw [List.nil_append, pieces, hback]
          exact if_pos rfl
  | cons c front ih =>
      rw [List.mem_cons, not_or] at h
      rw [List.cons_append, pieces, ih h.2]
      exact if_neg (Ne.symm h.1)

/-- A list that is cut at some `sep` has the pieces of both its parts. -/
theorem pieces_append {α : Type} [DecidableEq α] (sep : α) (front back : List α) :
    pieces sep (front ++ sep :: back) = pieces sep front ++ pieces sep back := by
  induction front with
  | nil => exact pieces_append_cons List.not_mem_nil back
  | cons c front ih =>
      rw [List.cons_append, pieces, ih, pieces]
      cases hfront : pieces sep front with
      | nil => exact absurd hfront (pieces_ne_nil sep front)
      | cons p ps => by_cases hc : c = sep <;> simp [hc]

theorem length_pieces {α : Type} [DecidableEq α] (sep : α) (cs : List α) :
    (pieces sep cs).length = cs.count sep + 1 := by
  induction cs with
  | nil => rfl
  | cons c cs ih =>
      rw [pieces, List.count_cons]
      cases hpieces : pieces sep cs with
      | nil => exact absurd hpieces (pieces_ne_nil sep cs)
      | cons p ps =>
          rw [hpieces] at ih
          by_cases hc : c = sep <;> simp [hc, ← ih]

/-- Put together again with `sep` between them, the pieces are the list. -/
theorem intercalate_pieces {α : Type} [DecidableEq α] (sep : α) (cs : List α) :
    [sep].intercalate (pieces sep cs) = cs := by
  induction cs with
  | nil => rfl
  | cons c cs ih =>
      rw [pieces]
      cases hpieces : pieces sep cs with
      | nil => exact absurd hpieces (pieces_ne_nil sep cs)
      | cons p ps =>
          rw [hpieces] at ih
          by_cases hc : c = sep
          · rw [← ih, hc]
            simp [List.intercalate]
          · rw [← ih]
            cases ps <;> simp [List.intercalate, hc]

theorem not_mem_of_mem_pieces {α : Type} [DecidableEq α] {sep : α} {cs p : List α}
    (h : p ∈ pieces sep cs) : sep ∉ p := by
  induction cs generalizing p with
  | nil =>
      obtain rfl := List.mem_singleton.mp h
      exact List.not_mem_nil
  | cons c cs ih =>
      rw [pieces] at h
      cases hpieces : pieces sep cs with
      | nil => exact absurd hpieces (pieces_ne_nil sep cs)
      | cons q qs =>
          rw [hpieces] at h ih
          have hq : sep ∉ q := ih List.mem_cons_self
          by_cases hc : c = sep
          · simp only [hc, if_true] at h
            rcases List.mem_cons.mp h with rfl | hmem
            · exact List.not_mem_nil
            · exact ih hmem
          · simp only [hc, if_false] at h
            rcases List.mem_cons.mp h with rfl | hmem
            · simp [hq, Ne.symm hc]
            · exact ih (List.mem_cons_of_mem q hmem)

/-- Lists without `sep` are the pieces of what they are put together to. -/
theorem pieces_intercalate {α : Type} [DecidableEq α] {sep : α} {ps : List (List α)}
    (hne : ps ≠ []) (h : ∀ p ∈ ps, sep ∉ p) : pieces sep ([sep].intercalate ps) = ps := by
  induction ps with
  | nil => exact absurd rfl hne
  | cons p ps ih =>
      have hp : sep ∉ p := h p List.mem_cons_self
      cases ps with
      | nil =>
          rw [List.intercalate_singleton]
          exact pieces_of_not_mem hp
      | cons q qs =>
          rw [List.intercalate_cons_cons, List.append_assoc, List.singleton_append,
            pieces_append_cons hp]
          rw [ih (List.cons_ne_nil q qs) fun r hr => h r (List.mem_cons_of_mem p hr)]

end Text

end TrackerGate
