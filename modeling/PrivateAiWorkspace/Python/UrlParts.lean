import PrivateAiWorkspace.Lists.Trimming
import PrivateAiWorkspace.Python.Url

/-!
# URLs put together from their parts

`urlsplit` of a URL that is written as a scheme, a network location, a path and
perhaps a query gives these parts back, as long as none of them holds a character
at which the URL is cut.
-/

namespace PrivateAiWorkspace.Python.Url

open PrivateAiWorkspace.Lists

/-- What `urlsplit` makes of what follows the scheme. -/
def splitRest (builtins : Builtins) (scheme : String) (rest : List Char) :
    Except PyException SplitResult :=
  let (netloc, rest) := splitNetloc rest
  if !bracketsOk netloc then .error .valueError
  else
    let rest := rest.takeWhile (· != '#')
    if !netlocOk builtins netloc then .error .valueError
    else .ok
      { scheme, netloc, path := String.ofList (rest.takeWhile (· != '?')),
        query := String.ofList ((rest.dropWhile (· != '?')).drop 1) }

/-- A scheme in lower case. -/
structure IsScheme (scheme : String) : Prop where
  chars : ∀ c ∈ scheme.toList, isSchemeChar c = true
  first : ∃ c rest, scheme.toList = c :: rest ∧ (c.toNat < 128 && c.isAlpha) = true
  lower : Str.asciiLower scheme = scheme

theorem isScheme_http : IsScheme "http" :=
  ⟨by decide, ⟨'h', ['t', 't', 'p'], rfl, by decide⟩, by decide +kernel⟩

theorem isScheme_https : IsScheme "https" :=
  ⟨by decide, ⟨'h', ['t', 't', 'p', 's'], rfl, by decide⟩, by decide +kernel⟩

section Builtins

variable {builtins : Builtins} {scheme netloc path : String} {rest : List Char}

/-- Characters of a scheme are among the first 128. -/
theorem isSchemeChar_clean {c : Char} (schemeChar : isSchemeChar c = true) :
    c ≠ ':' ∧ isUnsafe c = false ∧ isC0OrSpace c = false := by
  have small : c.toNat < 128 := by
    simp only [isSchemeChar, Bool.or_eq_true, Bool.and_eq_true,
      decide_eq_true_eq] at schemeChar
    rcases schemeChar with ((⟨ascii, -⟩ | rfl) | rfl) | rfl
    · exact ascii
    · decide
    · decide
    · decide
  have each : ∀ code < 128, isSchemeChar (Char.ofNat code) = true →
      Char.ofNat code ≠ ':' ∧ isUnsafe (Char.ofNat code) = false ∧
        isC0OrSpace (Char.ofNat code) = false := by decide +kernel
  have clean := each c.toNat small
  rw [Char.ofNat_toNat] at clean
  exact clean schemeChar

/-- A URL that begins with a scheme is cut behind it. -/
theorem urlsplit_of_scheme (isScheme : IsScheme scheme) :
    urlsplit builtins (String.ofList (scheme.toList ++ ':' :: rest)) =
      splitRest builtins scheme (rest.filter (!isUnsafe ·)) := by
  rcases isScheme.first with ⟨first, others, split, letter⟩
  have kept : (scheme.toList ++ ':' :: rest).dropWhile isC0OrSpace =
      scheme.toList ++ ':' :: rest := by
    apply dropWhile_of_head
    intro c found
    rw [split] at found
    cases found
    exact (isSchemeChar_clean (isScheme.chars first (by rw [split]; simp))).2.2
  have plain : scheme.toList.filter (!isUnsafe ·) = scheme.toList := by
    rw [List.filter_eq_self]
    intro c mem
    rw [(isSchemeChar_clean (isScheme.chars c mem)).2.1]
    rfl
  have trimmed : ((scheme.toList ++ ':' :: rest).dropWhile isC0OrSpace).filter
      (!isUnsafe ·) = scheme.toList ++ ':' :: rest.filter (!isUnsafe ·) := by
    rw [kept, List.filter_append, plain, List.filter_cons_of_pos (by decide)]
  have inScheme : ∀ c ∈ scheme.toList, (c != ':') = true := fun c mem =>
    bne_iff_ne.mpr (isSchemeChar_clean (isScheme.chars c mem)).1
  have cut : splitScheme (scheme.toList ++ ':' :: rest.filter (!isUnsafe ·)) =
      (scheme, rest.filter (!isUnsafe ·)) := by
    have stops : ∀ c, (':' :: rest.filter (!isUnsafe ·)).head? = some c →
        (c != ':') = false := by
      intro c found
      cases found
      rfl
    have all : scheme.toList.all isSchemeChar = true :=
      List.all_eq_true.mpr isScheme.chars
    rw [splitScheme, takeWhile_append_of_head inScheme stops,
      dropWhile_append_of_head inScheme stops]
    simp only [split]
    rw [← split, all, letter, Bool.true_and, if_pos rfl, String.ofList_toList,
      isScheme.lower]
  rw [urlsplit, String.toList_ofList, trimmed, cut]
  rfl

/-- A network location without the delimiters of one. -/
structure IsNetloc (builtins : Builtins) (netloc : String) : Prop where
  clean : ∀ c ∈ netloc.toList, (c != '/' && c != '?' && c != '#') = true
  brackets : bracketsOk netloc = true
  normal : netlocOk builtins netloc = true

/-- A path without the delimiters of one. -/
structure IsPath (path : String) : Prop where
  query : ∀ c ∈ path.toList, (c != '?') = true
  fragment : ∀ c ∈ path.toList, (c != '#') = true

/-- A query behind a path, if there is one. -/
def queryTail : Option (List Char) → List Char
  | none => []
  | some query => '?' :: query

/-- What stands behind the network location is cut into path and query. -/
theorem cut_path (isPath : IsPath path) (query : Option (List Char)) :
    ((path.toList ++ queryTail query).takeWhile (· != '#')).takeWhile (· != '?') =
        path.toList ∧
      (((path.toList ++ queryTail query).takeWhile (· != '#')).dropWhile
        (· != '?')).drop 1 = (query.getD []).takeWhile (· != '#') := by
  have before : (path.toList ++ queryTail query).takeWhile (· != '#') =
      path.toList ++ queryTail (query.map (List.takeWhile (· != '#'))) := by
    rw [List.takeWhile_append_of_pos isPath.fragment]
    cases query <;> rfl
  have stops : ∀ c, (queryTail (query.map (List.takeWhile (· != '#')))).head? = some c →
      (c != '?') = false := by
    intro c found
    cases query with
    | none => cases found
    | some query =>
        cases found
        rfl
  rw [before, takeWhile_append_of_head isPath.query stops,
    dropWhile_append_of_head isPath.query stops]
  cases query <;> exact ⟨rfl, rfl⟩

/-- Two slashes, a network location, and a path that is empty or begins with a slash
are taken apart, with a query behind them. -/
theorem splitRest_of_netloc (isNetloc : IsNetloc builtins netloc) (isPath : IsPath path)
    (slash : ∀ c, path.toList.head? = some c → c = '/') (query : Option (List Char)) :
    splitRest builtins scheme
        ('/' :: '/' :: (netloc.toList ++ (path.toList ++ queryTail query))) =
      .ok ⟨scheme, netloc, path,
        String.ofList ((query.getD []).takeWhile (· != '#'))⟩ := by
  have stops : ∀ c, (path.toList ++ queryTail query).head? = some c →
      (c != '/' && c != '?' && c != '#') = false := by
    intro c found
    cases chars : path.toList with
    | nil =>
        rw [chars] at found
        cases query with
        | none => cases found
        | some query =>
            cases found
            rfl
    | cons first rest =>
        rw [chars] at found
        cases found
        rw [slash c (by rw [chars]; rfl)]
        rfl
  rcases cut_path isPath query with ⟨pathCut, queryCut⟩
  rw [splitRest, splitNetloc, takeWhile_append_of_head isNetloc.clean stops,
    dropWhile_append_of_head isNetloc.clean stops, String.ofList_toList]
  dsimp only
  rw [isNetloc.brackets, isNetloc.normal, pathCut, queryCut, String.ofList_toList]
  rfl

/-- Without two slashes there is no network location. -/
theorem splitRest_of_path (isPath : IsPath path)
    (single : ¬ ['/', '/'] <+: path.toList) :
    splitRest builtins scheme path.toList = .ok ⟨scheme, "", path, ""⟩ := by
  have cut : splitNetloc path.toList = ("", path.toList) := by
    cases chars : path.toList with
    | nil => rfl
    | cons slash others =>
        rw [splitNetloc]
        intro more same
        apply single
        rw [chars, same]
        exact ⟨more, rfl⟩
  rcases cut_path isPath none with ⟨pathCut, queryCut⟩
  rw [queryTail, List.append_nil] at pathCut queryCut
  rw [splitRest, cut]
  dsimp only
  rw [show bracketsOk "" = true from rfl, show netlocOk builtins "" = true from rfl,
    pathCut, queryCut, String.ofList_toList]
  rfl

/-! ## What the parts of a URL are -/

/-- What stands between two slashes and the next delimiter is a network location. -/
theorem splitNetloc_cases {remaining : List Char}
    (split : splitNetloc rest = (netloc, remaining)) :
    (rest = '/' :: '/' :: (netloc.toList ++ remaining) ∧
        (∀ c ∈ netloc.toList, (c != '/' && c != '?' && c != '#') = true) ∧
        ∀ c, remaining.head? = some c → (c != '/' && c != '?' && c != '#') = false) ∨
      (netloc = "" ∧ remaining = rest ∧ ¬ ['/', '/'] <+: rest) := by
  rw [splitNetloc.eq_def] at split
  split at split
  next more =>
    cases split
    refine Or.inl ⟨?_, ?_, ?_⟩
    · rw [String.toList_ofList, List.takeWhile_append_dropWhile]
    · rw [String.toList_ofList]
      intro c mem
      have kept := List.mem_takeWhile_imp mem
      exact kept
    · intro c found
      exact @head?_dropWhile_eq_false _ _ more c found
  next single =>
    cases split
    refine Or.inr ⟨rfl, rfl, ?_⟩
    intro twice
    rcases twice with ⟨more, same⟩
    exact single more same.symm

/-- The parts of a URL that was taken apart, and how they stood in it. -/
theorem parts_of_splitRest {parts : SplitResult}
    (split : splitRest builtins scheme rest = .ok parts) :
    parts.scheme = scheme ∧ IsNetloc builtins parts.netloc ∧ IsPath parts.path ∧
      ∃ more, rest = '/' :: '/' :: (parts.netloc.toList ++ (parts.path.toList ++ more)) ∧
          (∀ c, parts.path.toList.head? = some c → c = '/') ∨
        parts.netloc = "" ∧ rest = parts.path.toList ++ more ∧
          ¬ ['/', '/'] <+: rest := by
  cases cut : splitNetloc rest with
  | mk netloc remaining =>
      rw [splitRest, cut] at split
      dsimp only at split
      split at split
      · cases split
      · rename_i brackets
        split at split
        · cases split
        · rename_i normal
          rw [Bool.not_eq_true, Bool.not_eq_false'] at brackets normal
          cases split
          have isPath : IsPath (String.ofList
              ((remaining.takeWhile (· != '#')).takeWhile (· != '?'))) := by
            refine ⟨?_, ?_⟩
            · rw [String.toList_ofList]
              exact fun c mem => List.mem_takeWhile_imp (p := (· != '?')) mem
            · rw [String.toList_ofList]
              intro c mem
              have among := (List.takeWhile_prefix (· != '?')).subset mem
              exact List.mem_takeWhile_imp (p := (· != '#')) among
          have initial : (remaining.takeWhile (· != '#')).takeWhile (· != '?') <+:
              remaining :=
            (List.takeWhile_prefix _).trans (List.takeWhile_prefix _)
          rcases initial with ⟨more, remains⟩
          dsimp only
          rcases splitNetloc_cases cut with ⟨whole, clean, stops⟩ |
            ⟨rfl, whole, single⟩
          · refine ⟨rfl, ⟨clean, brackets, normal⟩, isPath, more, Or.inl ⟨?_, ?_⟩⟩
            · rw [String.toList_ofList, remains]
              exact whole
            · intro c found
              have delimits := stops c (by
                rw [← remains, List.head?_append]
                rw [String.toList_ofList] at found
                rw [found]
                rfl)
              have mem := List.mem_of_mem_head? (Option.mem_def.mpr found)
              have query := isPath.query c mem
              have fragment := isPath.fragment c mem
              rw [query, fragment, Bool.and_true, Bool.and_true] at delimits
              exact bne_eq_false_iff_eq.mp delimits
          · refine ⟨rfl, ⟨(fun c mem => nomatch mem), brackets, normal⟩, isPath, more,
              Or.inr ⟨rfl, ?_, single⟩⟩
            rw [String.toList_ofList, remains]
            exact whole.symm

/-- A URL that is put together from a scheme, a network location, a path and perhaps
a query is taken apart into them. -/
theorem urlsplit_of_parts (isScheme : IsScheme scheme)
    (isNetloc : IsNetloc builtins netloc) (isPath : IsPath path)
    (slash : ∀ c, path.toList.head? = some c → c = '/')
    (netlocSafe : ∀ c ∈ netloc.toList, isUnsafe c = false)
    (pathSafe : ∀ c ∈ path.toList, isUnsafe c = false) (query : Option (List Char)) :
    ∃ kept, urlsplit builtins (String.ofList (scheme.toList ++ ':' :: '/' :: '/' ::
        (netloc.toList ++ (path.toList ++ queryTail query)))) =
      .ok ⟨scheme, netloc, path, kept⟩ := by
  have keep : ∀ {text : List Char}, (∀ c ∈ text, isUnsafe c = false) →
      text.filter (!isUnsafe ·) = text := by
    intro text isSafe
    rw [List.filter_eq_self]
    intro c mem
    rw [isSafe c mem]
    rfl
  have tail : (queryTail query).filter (!isUnsafe ·) =
      queryTail (query.map (List.filter (!isUnsafe ·))) := by
    cases query <;> rfl
  refine ⟨String.ofList
    (((query.map (List.filter (!isUnsafe ·))).getD []).takeWhile (· != '#')), ?_⟩
  rw [urlsplit_of_scheme isScheme]
  change splitRest builtins scheme ('/' :: '/' ::
    (netloc.toList ++ (path.toList ++ queryTail query)).filter (!isUnsafe ·)) = _
  rw [List.filter_append, List.filter_append, keep netlocSafe, keep pathSafe, tail]
  exact splitRest_of_netloc isNetloc isPath slash _

end Builtins

/-! ## Dot segments -/

/-- Segments without those that say where they stand: one dot is left out, and two
dots are left out together with the segment before them. -/
def removeDots : List String → List String → List String
  | kept, [] => kept
  | kept, segment :: rest =>
      if segment = "." then
        if rest = [] then kept ++ [""] else removeDots kept rest
      else if segment = ".." then
        if rest = [] then kept.dropLast ++ [""] else removeDots kept.dropLast rest
      else removeDots (kept ++ [segment]) rest

/-- The segments a path that begins with a slash leads to. -/
def resolve (path : String) : Option (List String) :=
  match path.toList with
  | '/' :: rest => some (removeDots [] ((rest.splitOn '/').map String.ofList))
  | _ => none

/-- A path of the segments, each behind a slash. -/
def join (segments : List String) : String :=
  String.ofList ('/' :: ['/'].intercalate (segments.map String.toList))

theorem resolve_join {segments : List String} (nonempty : segments ≠ [])
    (clean : ∀ segment ∈ segments, '/' ∉ segment.toList) :
    resolve (join segments) = some (removeDots [] segments) := by
  have cleanParts : ∀ part ∈ segments.map String.toList, '/' ∉ part := by
    intro part mem
    rcases List.mem_map.mp mem with ⟨segment, among, rfl⟩
    exact clean segment among
  have parts : segments.map String.toList ≠ [] := by simpa using nonempty
  rw [resolve, join, String.toList_ofList]
  simp only
  rw [List.splitOn_intercalate '/' cleanParts parts, List.map_map]
  simp


end PrivateAiWorkspace.Python.Url
