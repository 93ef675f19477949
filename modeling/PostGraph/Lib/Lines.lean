import Mathlib.Data.List.Basic
import Mathlib.Tactic.Common

/-!
Lists cut into pieces after each mark, as a text is cut into its lines.
-/
namespace Lines
variable {α : Type*} {mark : α} {before before' after after' xs ys piece : List α}

/-- The first mark of a list is at one place. -/
theorem first_mark (absent : mark ∉ before) (absent' : mark ∉ before')
    (same : before ++ mark :: after = before' ++ mark :: after') : before = before' ∧ after = after' := by
  induction before generalizing before' with
  | nil =>
    cases before' with
    | nil => exact ⟨rfl,by simpa using same⟩
    | cons x rest =>
      obtain ⟨rfl,-⟩ : mark = x ∧ _ := by simpa using same
      simp at absent'
  | cons x rest ih =>
    cases before' with
    | nil =>
      obtain ⟨rfl,-⟩ : x = mark ∧ _ := by simpa using same
      simp at absent
    | cons x' rest' =>
      obtain ⟨rfl,later⟩ : x = x' ∧ rest ++ mark :: after = rest' ++ mark :: after' := by simpa using same
      obtain ⟨rfl,rfl⟩ := ih (fun member => absent (by simp [member])) (fun member => absent' (by simp [member])) later
      exact ⟨rfl,rfl⟩

/-- One piece: its only mark is at its end. -/
def IsPiece (mark : α) (piece : List α) : Prop := ∃ content, piece = content ++ [mark] ∧ mark ∉ content

theorem IsPiece.ne_nil (complete : IsPiece mark piece) : piece ≠ [] := by
  obtain ⟨content,rfl,-⟩ := complete
  simp

/-- A list begins with one piece at most. -/
theorem IsPiece.unique {piece' : List α} (complete : IsPiece mark piece) (complete' : IsPiece mark piece')
    (same : piece ++ after = piece' ++ after') : piece = piece' ∧ after = after' := by
  obtain ⟨content,rfl,absent⟩ := complete
  obtain ⟨content',rfl,absent'⟩ := complete'
  obtain ⟨rfl,rfl⟩ := first_mark absent absent' (by simpa using same)
  exact ⟨rfl,rfl⟩

/-- Of what follows a piece nothing decides whether the piece begins with `start`, if
    `start` holds no mark. -/
theorem IsPiece.prefix_iff {start : List α} (complete : IsPiece mark piece) (unmarked : mark ∉ start) :
    start <+: piece ++ after ↔ start <+: piece := by
  constructor
  · intro begins
    rcases List.prefix_or_prefix_of_prefix begins (List.prefix_append piece after) with short | long
    · exact short
    · obtain ⟨content,rfl,-⟩ := complete
      exact absurd (long.subset (by simp)) unmarked
  · intro begins
    exact begins.trans (List.prefix_append piece after)

variable [DecidableEq α]

/-- The pieces of a list, each up to and including a mark; the last one may lack
    it. -/
def pieces (mark : α) : List α → List (List α)
  | [] => []
  | x :: rest =>
    if x = mark then [x] :: pieces mark rest
    else match pieces mark rest with
      | [] => [[x]]
      | piece :: others => (x :: piece) :: others

@[simp] theorem flatten_pieces (mark : α) (xs : List α) : (pieces mark xs).flatten = xs := by
  induction xs with
  | nil => rfl
  | cons x rest ih =>
    rw [pieces]
    split_ifs with same
    · simp [ih]
    · cases later : pieces mark rest with
      | nil => simpa [later] using ih
      | cons piece others => simpa [later] using ih

theorem pieces_append (mark : α) (xs after : List α) :
    pieces mark (xs ++ mark :: after) = pieces mark (xs ++ [mark]) ++ pieces mark after := by
  induction xs with
  | nil => simp [pieces]
  | cons x rest ih =>
    simp only [List.cons_append,pieces,ih]
    split_ifs
    · rfl
    · cases later : pieces mark (rest ++ [mark]) with
      | nil =>
        have lost := flatten_pieces mark (rest ++ [mark])
        simp [later] at lost
      | cons piece others => rfl

theorem pieces_ne_nil (mark : α) (some : xs ≠ []) : pieces mark xs ≠ [] := by
  intro none
  have lost := flatten_pieces mark xs
  simp [none] at lost
  exact some lost

/-- The pieces of a list that ends with a mark are complete. -/
theorem isPiece_of_mem (xs : List α) (member : piece ∈ pieces mark (xs ++ [mark])) : IsPiece mark piece := by
  induction xs generalizing piece with
  | nil =>
    obtain rfl : piece = [mark] := by simpa [pieces] using member
    exact ⟨[],rfl,by simp⟩
  | cons x rest ih =>
    rw [List.cons_append,pieces] at member
    split_ifs at member with same
    · rcases List.mem_cons.mp member with rfl | later
      · exact ⟨[],by simp [same],by simp⟩
      · exact ih later
    · obtain ⟨first,others,later⟩ := List.exists_cons_of_ne_nil (pieces_ne_nil mark (show rest ++ [mark] ≠ [] by simp))
      rw [later] at member ih
      rcases List.mem_cons.mp member with rfl | further
      · obtain ⟨content,rfl,absent⟩ := ih (by simp : first ∈ first :: others)
        exact ⟨x :: content,by simp,by simp [absent,Ne.symm same]⟩
      · exact ih (by simp [further])

/-- The pieces after the first one are those that follow a mark. -/
theorem mem_tail_pieces : piece ∈ (pieces mark (xs ++ [mark])).tail ↔
    IsPiece mark piece ∧ ∃ before after, xs ++ [mark] = before ++ mark :: (piece ++ after) := by
  constructor
  · intro member
    refine ⟨isPiece_of_mem xs (List.mem_of_mem_tail member),?_⟩
    obtain ⟨first,others,cut⟩ := List.exists_cons_of_ne_nil (pieces_ne_nil mark (show xs ++ [mark] ≠ [] by simp))
    have whole := flatten_pieces mark (xs ++ [mark])
    rw [cut,List.tail_cons] at member
    obtain ⟨lead,follow,rfl⟩ := List.append_of_mem member
    -- the pieces up to this one end with a mark
    obtain ⟨front,last,split⟩ := (List.eq_nil_or_concat (first :: lead)).resolve_left (by simp)
    obtain ⟨content,rfl,-⟩ : IsPiece mark last := isPiece_of_mem xs (by rw [cut,← List.cons_append,split]; simp)
    refine ⟨front.flatten ++ content,follow.flatten,?_⟩
    rw [← whole,cut,← List.cons_append,split]
    simp
  · rintro ⟨complete,before,after,split⟩
    have some : piece ++ after ≠ [] := by simp [complete.ne_nil]
    rw [split,pieces_append]
    obtain ⟨first,others,cut⟩ := List.exists_cons_of_ne_nil (pieces_ne_nil mark some)
    have complete' : IsPiece mark first := isPiece_of_mem xs (by rw [split,pieces_append,cut]; simp)
    have whole := flatten_pieces mark (piece ++ after)
    rw [cut,List.flatten_cons] at whole
    obtain ⟨rfl,-⟩ := complete'.unique complete whole
    obtain ⟨head,tail,cut'⟩ := List.exists_cons_of_ne_nil (pieces_ne_nil mark (show before ++ [mark] ≠ [] by simp))
    rw [cut,cut']
    simp

end Lines
