import PrivateAiWorkspace.Lists.Grouping
import PrivateAiWorkspace.Python.Splitting

/-!
# Chunks of a document

`chunk_text` of `retrieval.py`: a text is packed into chunks word by word. The
loop keeps the length of the chunk it fills; `chunkText_eq` shows that it groups
the words greedily.
-/

namespace PrivateAiWorkspace.ControlPlane

open Python PrivateAiWorkspace.Lists

/-- The variables of the loop: `chunks`, `current` and `length`. -/
structure ChunkLoop where
  chunks : List String
  current : List String
  length : Int

/-- One round of the loop. -/
def ChunkLoop.add (chunkChars : Int) (loop : ChunkLoop) (word : String) :
    ChunkLoop :=
  let added : Int := word.length + (if loop.current.isEmpty then 0 else 1)
  if !loop.current.isEmpty && chunkChars < loop.length + added then
    { chunks := loop.chunks ++ [Str.unwords loop.current]
      current := [word]
      length := word.length }
  else
    { loop with
      current := loop.current ++ [word]
      length := loop.length + added }

/-- The chunks after the loop, with what it has not yet closed. -/
def ChunkLoop.finish (loop : ChunkLoop) : List String :=
  if loop.current.isEmpty then loop.chunks
  else loop.chunks ++ [Str.unwords loop.current]

/-- `chunk_text`. -/
def chunkText (content : String) (chunkChars : Int) : List String :=
  ((Str.words content).foldl (ChunkLoop.add chunkChars) ⟨[], [], 0⟩).finish

/-- A chunk has room for a word: both fit with the blank between them. -/
def chunkRoom (chunkChars : Int) (chunk : List String) (word : String) : Bool :=
  (Str.unwords chunk).length + 1 + word.length ≤ chunkChars

/-- The loop knows the length of the chunk it fills. -/
def ChunkLoop.Measured (loop : ChunkLoop) : Prop :=
  loop.length = (Str.unwords loop.current).length

theorem ChunkLoop.measured_add {loop : ChunkLoop} (measured : loop.Measured)
    (chunkChars : Int) (word : String) : (loop.add chunkChars word).Measured := by
  rcases loop with ⟨chunks, current, length⟩
  rw [Measured] at measured
  have alone : (Str.unwords [word]).length = word.length := by
    rw [Str.unwords, String.intercalate_singleton]
  cases current with
  | nil =>
      have empty : length = 0 := measured
      simp [add, Measured, alone, empty]
  | cons first rest =>
      have joined := Str.length_unwords_append (List.cons_ne_nil first rest) word
      by_cases full : chunkChars < length + (word.length + 1)
      · simp [add, Measured, alone, full]
      · simp only [add, Measured, List.isEmpty_cons, Bool.not_false, Bool.true_and,
          decide_eq_true_eq, Bool.false_eq_true, if_false, full, joined]
        simp only at measured
        omega

/-- The rest of the loop groups the words that are left. -/
theorem ChunkLoop.finish_foldl {chunkChars : Int} (words : List String)
    {loop : ChunkLoop} (measured : loop.Measured) :
    (words.foldl (add chunkChars) loop).finish =
      loop.chunks ++
        (group (chunkRoom chunkChars) loop.current words).map Str.unwords := by
  induction words generalizing loop with
  | nil => cases current : loop.current <;> simp [finish, group, current]
  | cons word words ih =>
      rw [List.foldl_cons, ih (measured_add measured chunkChars word), add, group]
      rw [Measured] at measured
      cases current : loop.current with
      | nil => simp
      | cons first rest =>
          rw [current] at measured
          by_cases full : chunkRoom chunkChars (first :: rest) word
          · have fits : ¬chunkChars < loop.length + (word.length + 1) := by
              rw [chunkRoom, decide_eq_true_eq] at full
              omega
            simp [fits, full]
          · have overflows : chunkChars < loop.length + (word.length + 1) := by
              rw [chunkRoom, decide_eq_true_eq] at full
              omega
            simp [overflows, full]

/-- The chunks are the greedy groups of the words. -/
theorem chunkText_eq (content : String) (chunkChars : Int) :
    chunkText content chunkChars =
      (group (chunkRoom chunkChars) [] (Str.words content)).map Str.unwords := by
  have measured : ChunkLoop.Measured ⟨[], [], 0⟩ := rfl
  rw [chunkText, ChunkLoop.finish_foldl _ measured, List.nil_append]

theorem isWord_of_mem_group {content word : String} {chunkChars : Int}
    {chunk : List String}
    (mem : chunk ∈ group (chunkRoom chunkChars) [] (Str.words content))
    (among : word ∈ chunk) : Str.IsWord word := by
  apply @Str.isWord_of_mem_words content
  have all := @flatten_group _ (chunkRoom chunkChars) [] (Str.words content)
  rw [List.nil_append] at all
  rw [← all]
  exact List.mem_flatten.mpr ⟨chunk, mem, among⟩

/-- The words of a chunk are the group it was made of. -/
theorem words_of_mem_group {content : String} {chunkChars : Int}
    {chunk : List String}
    (mem : chunk ∈ group (chunkRoom chunkChars) [] (Str.words content)) :
    Str.words (Str.unwords chunk) = chunk :=
  Str.words_unwords fun _ among => isWord_of_mem_group mem among

theorem length_le_of_chunkRoom {chunkChars : Int} {chunk : List String}
    {word : String} (grown : Grown (chunkRoom chunkChars) chunk)
    (hasRoom : chunkRoom chunkChars chunk word = true) :
    ((Str.unwords (chunk ++ [word])).length : Int) ≤ chunkChars := by
  rw [Str.length_unwords_append grown.ne_nil]
  rw [chunkRoom, decide_eq_true_eq] at hasRoom
  omega

/-- A chunk that ends because the next word does not fit. -/
def ClosedBy (chunkChars : Int) (chunk next : String) : Prop :=
  ∃ word rest, Str.words next = word :: rest ∧
    chunkChars < chunk.length + 1 + word.length

/-- The chunks of a text hold its words in their order, none is empty, each one
fits unless it is a single word, and none could have taken the first word of the
chunk after it. -/
theorem chunkText_spec (content : String) (chunkChars : Int) :
    (chunkText content chunkChars).flatMap Str.words = Str.words content ∧
    (∀ chunk ∈ chunkText content chunkChars, chunk ≠ "" ∧
      (chunkChars < chunk.length → Str.words chunk = [chunk])) ∧
    (chunkText content chunkChars).IsChain (ClosedBy chunkChars) := by
  rw [chunkText_eq]
  have chunkWords : ∀ chunk ∈ group (chunkRoom chunkChars) [] (Str.words content),
      Str.words (Str.unwords chunk) = chunk :=
    fun chunk mem => words_of_mem_group mem
  have grown : ∀ chunk ∈ group (chunkRoom chunkChars) [] (Str.words content),
      Grown (chunkRoom chunkChars) chunk :=
    fun chunk mem => grown_of_mem_group (Or.inl rfl) mem
  refine ⟨?_, ?_, ?_⟩
  · rw [List.flatMap_map, List.flatMap_congr chunkWords, List.flatMap_id', flatten_group,
      List.nil_append]
  · intro text mem
    rcases List.mem_map.mp mem with ⟨chunk, among, rfl⟩
    constructor
    · intro empty
      have none := chunkWords chunk among
      rw [empty] at none
      exact (grown chunk among).ne_nil none.symm
    · intro long
      rcases (grown chunk among).single_or
          (fun words => ((Str.unwords words).length : Int) ≤ chunkChars)
          (fun _ _ grown hasRoom => length_le_of_chunkRoom grown hasRoom) with
        ⟨word, rfl⟩ | fits
      · rw [chunkWords _ among, Str.unwords, String.intercalate_singleton]
      · omega
  · rw [List.isChain_map]
    apply (isChain_group [] _).imp_of_mem_imp
    intro chunk next among later divided
    have begun := (grown next later).ne_nil
    cases next with
    | nil => exact absurd rfl begun
    | cons word rest =>
        refine ⟨word, rest, chunkWords _ later, ?_⟩
        have noRoom := divided word rfl
        rw [chunkRoom, decide_eq_false_iff_not] at noRoom
        omega

/-- A long word has a chunk of its own. -/
example : chunkText " ab  c\tdefghij k " 4 = ["ab c", "defghij", "k"] := by
  decide +kernel

/-! ## How many chunks there are -/

/-- The characters of some words, with a blank behind each. -/
def weight (words : List String) : Nat := (words.map fun word => word.length + 1).sum

theorem weight_words_le (content : String) :
    weight (Str.words content) ≤ content.length + 1 := by
  have bounded := @sum_length_fieldsFrom _ Str.isSpace [] content.toList
  rw [List.length_nil, Nat.zero_add, String.length_toList] at bounded
  rw [weight, Str.words, List.map_map]
  apply Nat.le_trans (Nat.le_of_eq _) bounded
  rw [fields]
  congr 1
  exact List.map_congr_left fun field _ => by
    rw [Function.comp_apply, String.length_ofList]

theorem weight_eq {words : List String} (nonempty : words ≠ []) :
    weight words = (Str.unwords words).length + 1 := by
  induction words using List.reverseRecOn with
  | nil => exact absurd rfl nonempty
  | append_singleton words word ih =>
      by_cases begun : words = []
      · subst begun
        rw [List.nil_append, Str.unwords, String.intercalate_singleton]
        simp [weight]
      · have before := ih begun
        rw [weight] at before
        rw [Str.length_unwords_append begun, weight, List.map_append, List.sum_append,
          before, List.map_singleton, List.sum_singleton]
        omega

/-- Two neighbours together exceed the size of a chunk. -/
theorem le_add_of_closedBy {chunkChars : Nat} {chunk next : String}
    (closed : ClosedBy chunkChars chunk next)
    (words : Str.unwords (Str.words next) = next) :
    chunkChars ≤ chunk.length + next.length := by
  rcases closed with ⟨word, rest, split, exceeds⟩
  have first : word.length ≤ next.length := by
    have whole := weight_eq (List.cons_ne_nil word rest)
    rw [← split, words, split] at whole
    simp only [weight, List.map_cons, List.sum_cons] at whole
    omega
  omega

theorem unwords_words_of_mem {content chunk : String} {chunkChars : Int}
    (mem : chunk ∈ chunkText content chunkChars) :
    Str.unwords (Str.words chunk) = chunk := by
  rw [chunkText_eq] at mem
  rcases List.mem_map.mp mem with ⟨group, among, rfl⟩
  rw [words_of_mem_group among]

/-- Texts weigh what their words weigh. -/
theorem sum_length_add_length {texts : List String}
    (joined : ∀ text ∈ texts, Str.unwords (Str.words text) = text)
    (nonempty : ∀ text ∈ texts, text ≠ "") :
    (texts.map String.length).sum + texts.length =
      weight (texts.flatMap Str.words) := by
  induction texts with
  | nil => rfl
  | cons text texts ih =>
      have begun : Str.words text ≠ [] := by
        intro none
        have empty := joined text List.mem_cons_self
        rw [none] at empty
        exact nonempty text List.mem_cons_self empty.symm
      have first := weight_eq begun
      have others := ih (fun other mem => joined other (List.mem_cons_of_mem _ mem))
        (fun other mem => nonempty other (List.mem_cons_of_mem _ mem))
      rw [joined text List.mem_cons_self] at first
      rw [weight] at first others
      rw [List.flatMap_cons, weight, List.map_append, List.sum_append, List.map_cons,
        List.sum_cons, List.length_cons]
      omega

/-- The chunks of a text are together no longer than it. -/
theorem sum_length_chunkText_le (content : String) (chunkChars : Int) :
    ((chunkText content chunkChars).map String.length).sum ≤ content.length := by
  rcases chunkText_spec content chunkChars with ⟨words, shaped, -⟩
  have weighs := sum_length_add_length
    (fun chunk mem => unwords_words_of_mem mem)
    fun chunk mem => (shaped chunk mem).1
  have bounded := weight_words_le content
  rw [words] at weighs
  cases chunks : chunkText content chunkChars with
  | nil => simp
  | cons chunk others =>
      rw [chunks, List.length_cons] at weighs
      omega

/-- Half of the chunks of a text are, on average, at least as long as a chunk may
be. -/
theorem half_chunks_mul_le (content : String) (chunkChars : Nat) :
    (chunkText content chunkChars).length / 2 * chunkChars ≤ content.length := by
  have chain := (chunkText_spec content chunkChars).2.2
  apply Nat.le_trans _ (sum_length_chunkText_le content chunkChars)
  apply half_mul_le_sum
  apply chain.imp_of_mem_imp
  intro chunk next _ mem closed
  exact le_add_of_closedBy closed (unwords_words_of_mem mem)

end PrivateAiWorkspace.ControlPlane
