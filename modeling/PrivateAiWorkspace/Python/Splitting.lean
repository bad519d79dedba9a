import PrivateAiWorkspace.Lists.Fields
import PrivateAiWorkspace.Lists.Trimming
import PrivateAiWorkspace.Python.Basic

/-!
# Splitting texts and bytes

Words of a text, and lines of bytes as a process prints them.
-/

namespace PrivateAiWorkspace.Python

open PrivateAiWorkspace.Lists

namespace Str

/-- `text.split()`. -/
def words (text : String) : List String :=
  (fields isSpace text.toList).map String.ofList

/-- `" ".join(words)`. -/
def unwords (words : List String) : String := " ".intercalate words

/-- A word: it is not empty and holds no white space. -/
def IsWord (word : String) : Prop := IsField isSpace word.toList

theorem isWord_of_mem_words {text word : String} (mem : word ∈ words text) :
    IsWord word := by
  rcases List.mem_map.mp mem with ⟨field, isField, rfl⟩
  rw [IsWord, String.toList_ofList]
  exact isField_of_mem_fields isField

/-- Words that are joined by blanks are the words of the text. -/
theorem words_unwords {parts : List String}
    (areWords : ∀ part ∈ parts, IsWord part) : words (unwords parts) = parts := by
  have areFields : ∀ field ∈ parts.map String.toList, IsField isSpace field := by
    intro field mem
    rcases List.mem_map.mp mem with ⟨part, among, rfl⟩
    exact areWords part among
  have blank : isSpace ' ' = true := by decide
  rw [words, unwords, String.toList_intercalate,
    show " ".toList = [' '] from rfl, fields_intercalate blank areFields,
    List.map_map]
  exact List.map_id'' (fun part => String.ofList_toList) parts

/-- A word more after some: a blank and its characters. -/
theorem length_unwords_append {parts : List String} (nonempty : parts ≠ [])
    (word : String) :
    (unwords (parts ++ [word])).length =
      (unwords parts).length + 1 + word.length := by
  rw [unwords, String.intercalate_append_of_ne_nil nonempty (List.cons_ne_nil _ _),
    String.intercalate_singleton, String.length_append, String.length_append]
  rfl

/-! ### The first word -/

theorem toList_strip (text : String) :
    (strip text).toList = trim isSpace text.toList :=
  String.toList_ofList

/-- A text is cut behind its first word when blanks and something else follow
it: the rest begins with no blank. -/
theorem splitWord_eq_pair_iff {text word rest : String} :
    splitWord text = [word, rest] ↔ IsWord word ∧ rest ≠ "" ∧
      (∀ first, rest.toList.head? = some first → isSpace first = false) ∧
      ∃ before gap : List Char, (∀ c ∈ before, isSpace c = true) ∧
        (∀ c ∈ gap, isSpace c = true) ∧ gap ≠ [] ∧
        text.toList = before ++ word.toList ++ gap ++ rest.toList := by
  constructor
  · intro cut
    have leading := List.takeWhile_append_dropWhile (p := isSpace) (l := text.toList)
    rw [splitWord] at cut
    generalize begun : text.toList.dropWhile isSpace = trimmed at cut leading
    cases trimmed with
    | nil => cases cut
    | cons first others =>
      dsimp only at cut
      have letter := head?_dropWhile_eq_false (by rw [begun]; rfl : _ = some first)
      have inner := List.takeWhile_append_dropWhile (p := (!isSpace ·))
        (l := first :: others)
      generalize onward : (first :: others).dropWhile (!isSpace ·) = tail at cut inner
      generalize resumed : tail.dropWhile isSpace = behind at cut
      cases behind with
      | nil => cases cut
      | cons next later =>
        cases cut
        have starts := head?_dropWhile_eq_false (by rw [resumed]; rfl : _ = some next)
        refine ⟨⟨?_, ?_⟩, ?_, ?_, text.toList.takeWhile isSpace,
          tail.takeWhile isSpace, fun _ mem => List.mem_takeWhile_imp mem,
          fun _ mem => List.mem_takeWhile_imp mem, ?_, ?_⟩
        · simp [letter]
        · intro c mem
          rw [String.toList_ofList] at mem
          simpa using List.mem_takeWhile_imp mem
        · simp
        · intro c found
          rw [String.toList_ofList] at found
          cases found
          exact starts
        · intro none
          have whole := List.takeWhile_append_dropWhile (p := isSpace) (l := tail)
          rw [none, resumed, List.nil_append] at whole
          have blank := head?_dropWhile_eq_false
            (by rw [onward, ← whole]; rfl : _ = some next)
          rw [starts] at blank
          cases blank
        · rw [String.toList_ofList, String.toList_ofList, ← resumed,
            List.append_assoc, List.takeWhile_append_dropWhile, List.append_assoc,
            inner, leading]
  · intro ⟨isWord, nonempty, starts, before, gap, blanks, between, gap_ne, split⟩
    have letters : ∀ c ∈ word.toList, (!isSpace c) = true := by
      intro c mem
      rw [isWord.clean c mem]
      rfl
    have word_ne : word.toList ≠ [] := isWord.ne_nil
    have begun : text.toList.dropWhile isSpace =
        word.toList ++ (gap ++ rest.toList) := by
      rw [split, List.append_assoc, List.append_assoc]
      apply dropWhile_append_of_head blanks
      intro first found
      rw [List.head?_append_of_ne_nil _ word_ne] at found
      exact isWord.clean first (List.mem_of_mem_head? found)
    have ends : ∀ first, (gap ++ rest.toList).head? = some first →
        (!isSpace first) = false := by
      intro first found
      rw [List.head?_append_of_ne_nil _ gap_ne] at found
      rw [between first (List.mem_of_mem_head? found)]
      rfl
    have rest_ne : rest.toList ≠ [] := by simpa using nonempty
    rw [splitWord, begun]
    split
    next empty => exact absurd (List.append_eq_nil_iff.mp empty).1 word_ne
    next =>
      dsimp only
      rw [takeWhile_append_of_head letters ends, dropWhile_append_of_head letters ends,
        dropWhile_append_of_head between starts, String.ofList_toList]
      split
      next empty => exact absurd empty rest_ne
      next => rw [String.ofList_toList]

end Str

namespace Bytes

/-- `data.splitlines()`, after a part of the first line. -/
def splitLinesFrom (line : Bytes) : Bytes → List Bytes
  | [] => closeField line
  | 0x0d :: 0x0a :: rest => line :: splitLinesFrom [] rest
  | byte :: rest =>
      if byte = 0x0a ∨ byte = 0x0d then line :: splitLinesFrom [] rest
      else splitLinesFrom (line ++ [byte]) rest

/-- `data.splitlines()`. -/
def splitLines (data : Bytes) : List Bytes := splitLinesFrom [] data

/-- A byte that is ASCII white space. -/
def isSpace (byte : UInt8) : Bool :=
  (0x09 ≤ byte && byte ≤ 0x0d) || byte == 0x20

/-- `data.strip()`. -/
def strip (data : Bytes) : Bytes :=
  ((data.dropWhile isSpace).reverse.dropWhile isSpace).reverse

end Bytes

end PrivateAiWorkspace.Python
