import Mathlib.Data.List.TakeWhile

/-! The words of a line: its longest stretches without a separator. -/

namespace Words

variable {Char : Type} (isSpace : Char → Bool)

def words (line : List Char) : List (List Char) :=
  (line.splitOnP isSpace).filter fun word => !word.isEmpty

variable {isSpace}

theorem words_nil : words isSpace [] = [] := by
  simp [words]

theorem words_space {c : Char} (space : isSpace c = true) (line : List Char) :
    words isSpace (c :: line) = words isSpace line := by
  have split := List.splitOnP_append_cons (p := isSpace) [] line space
  rw [List.nil_append] at split
  simp [words, split]

theorem words_word {word : List Char} (nonempty : word ≠ [])
    (plain : ∀ c ∈ word, isSpace c = false) : words isSpace word = [word] := by
  rw [words, List.splitOnP_eq_singleton plain]
  simp [nonempty]

theorem words_append {word : List Char} {c : Char} (nonempty : word ≠ [])
    (plain : ∀ c ∈ word, isSpace c = false) (space : isSpace c = true) (line : List Char) :
    words isSpace (word ++ c :: line) = word :: words isSpace line := by
  rw [words, List.splitOnP_append_cons_of_forall_mem plain c space]
  simp [words, nonempty]

theorem words_dropWhile (line : List Char) :
    words isSpace (line.dropWhile isSpace) = words isSpace line := by
  induction line with
  | nil => rfl
  | cons c line ih =>
      rw [List.dropWhile_cons]
      split
      · rename_i space
        rw [ih, words_space space]
      · rfl

theorem words_cons {c : Char} (plain : isSpace c = false) (line : List Char) :
    words isSpace (c :: line) = (c :: line).takeWhile (!isSpace ·) ::
      words isSpace (((c :: line).dropWhile (!isSpace ·)).drop 1) := by
  have first : (c :: line).takeWhile (!isSpace ·) ≠ [] := by simp [plain]
  have inside : ∀ other ∈ (c :: line).takeWhile (!isSpace ·), isSpace other = false := by
    intro other member
    simpa using List.mem_takeWhile_imp member
  have parts := List.takeWhile_append_dropWhile (p := (!isSpace ·)) (l := c :: line)
  cases rest : (c :: line).dropWhile (!isSpace ·) with
  | nil =>
      rw [rest, List.append_nil] at parts
      rw [parts] at first inside ⊢
      rw [words_word first inside, List.drop_nil, words_nil]
  | cons space rest' =>
      have ends : isSpace space = true := by
        have stopped := List.head_dropWhile_not (!isSpace ·) (l := c :: line) (by simp [rest])
        simpa [rest] using stopped
      rw [rest] at parts
      have whole : words isSpace (c :: line) =
          words isSpace ((c :: line).takeWhile (!isSpace ·) ++ space :: rest') := by rw [parts]
      rw [whole, words_append first inside ends, List.drop_one, List.tail_cons]

end Words
