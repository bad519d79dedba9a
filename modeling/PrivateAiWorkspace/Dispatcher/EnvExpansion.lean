import Mathlib.Data.List.Basic

/-!
# References in the environment of a container

The value of an environment variable may refer to other variables. `$(NAME)` is
replaced by the value of the variable and left as it is when there is none, `$$` is
replaced by `$` and never begins a reference, and any other `$` is left as it is.
The texts are ASCII.
-/

namespace PrivateAiWorkspace.EnvExpansion

/-- Where in a text one is: at its beginning or behind what has been read, behind a
`$`, or in a reference, with what of its name has been read (last character
first). -/
inductive Place where
  | plain
  | dollar
  | name (read : List Char)

/-- What a reference is replaced by. -/
def referred (lookup : String → Option String) (name : List Char) : List Char :=
  match lookup (String.ofList name) with
  | some value => value.toList
  | none => '$' :: '(' :: (name ++ [')'])

/-- A text with its references replaced, from a place on. A reference is only
entered when its end is in sight. -/
def expandFrom (lookup : String → Option String) : Place → List Char → List Char
  | .plain, [] => []
  | .plain, c :: rest =>
      if c = '$' then expandFrom lookup .dollar rest
      else c :: expandFrom lookup .plain rest
  | .dollar, [] => ['$']
  | .dollar, c :: rest =>
      if c = '$' then '$' :: expandFrom lookup .plain rest
      else if c = '(' ∧ ')' ∈ rest then expandFrom lookup (.name []) rest
      else '$' :: c :: expandFrom lookup .plain rest
  | .name _, [] => []
  | .name read, c :: rest =>
      if c = ')' then referred lookup read.reverse ++ expandFrom lookup .plain rest
      else expandFrom lookup (.name (c :: read)) rest

/-- A value with its references replaced. -/
def expand (lookup : String → Option String) (value : String) : String :=
  String.ofList (expandFrom lookup .plain value.toList)

/-- The variables of an environment whose values are given in order. A value may
refer to the variables before it and to those that were there already. -/
def environment (outer : String → Option String) (given : List (String × String)) :
    List (String × String) :=
  given.foldl (fun known entry =>
    (entry.1, expand (fun name => known.lookup name <|> outer name) entry.2) :: known)
    []

variable {lookup : String → Option String}

/-! ## Values that are left as they are -/

theorem expandFrom_of_no_dollar {text : List Char} (none : '$' ∉ text) :
    expandFrom lookup .plain text = text := by
  induction text with
  | nil => rfl
  | cons c rest ih =>
      rw [List.mem_cons, not_or] at none
      rw [expandFrom, if_neg (Ne.symm none.1), ih none.2]

/-- A value without `$` is left as it is. -/
theorem expand_of_no_dollar {value : String} (none : '$' ∉ value.toList) :
    expand lookup value = value := by
  rw [expand, expandFrom_of_no_dollar none, String.ofList_toList]

end PrivateAiWorkspace.EnvExpansion
