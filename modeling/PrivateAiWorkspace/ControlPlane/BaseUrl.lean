import PrivateAiWorkspace.ControlPlane.InferenceClient
import PrivateAiWorkspace.Python.Splitting
import PrivateAiWorkspace.Python.UrlParts

/-!
# Base URLs that are normalized again

`InferenceEndpoint.from_base_url` normalizes a base URL, and the builders of the URLs
of its endpoint normalize the result once more. Parameters are dropped before trailing
slashes are, and white space is stripped before the path is, so that the second time
may find more to take off than the first one left.
-/

namespace PrivateAiWorkspace.ControlPlane.BaseUrl

open PrivateAiWorkspace.Lists Python

/-! ## Putting parts together -/

/-- Network location and path of a URL that is taken apart where it was put together. -/
structure Proper (builtins : Builtins) (netloc path : String) : Prop where
  isNetloc : Url.IsNetloc builtins netloc
  isPath : Url.IsPath path
  slash : netloc ≠ "" → ∀ c, path.toList.head? = some c → c = '/'
  netlocSafe : ∀ c ∈ netloc.toList, Url.isUnsafe c = false
  pathSafe : ∀ c ∈ path.toList, Url.isUnsafe c = false

/-- What stands behind the scheme and its colon. -/
def address (netloc path : String) : List Char :=
  if netloc = "" ∧ path ≠ "" ∧ ¬ Str.startsWith path "/" then path.toList
  else '/' :: '/' :: (netloc.toList ++ path.toList)

section Parts

variable {builtins : Builtins} {scheme netloc path : String}

theorem startsWith_slash_iff {path : String} :
    Str.startsWith path "/" ↔ path.toList.head? = some '/' := by
  rw [Str.startsWith, List.isPrefixOf_iff_prefix]
  cases chars : path.toList with
  | nil => decide
  | cons c rest =>
      change ['/'] <+: c :: rest ↔ _
      rw [List.cons_prefix_cons, List.head?_cons, Option.some_inj]
      exact ⟨fun same => same.1.symm, fun same => ⟨same.symm, List.nil_prefix⟩⟩

theorem Proper.address_cases (proper : Proper builtins netloc path) :
    (address netloc path = '/' :: '/' :: (netloc.toList ++ path.toList) ∧
        ∀ c, path.toList.head? = some c → c = '/') ∨
      (address netloc path = path.toList ∧ netloc = "" ∧
        ¬ ['/', '/'] <+: path.toList) := by
  rw [address]
  split
  next relative =>
    refine Or.inr ⟨rfl, relative.1, ?_⟩
    intro twice
    apply relative.2.2
    rw [startsWith_slash_iff]
    rcases twice with ⟨more, whole⟩
    rw [← whole]
    rfl
  next absolute =>
    refine Or.inl ⟨rfl, ?_⟩
    intro c found
    by_cases located : netloc = ""
    · rw [not_and, not_and, not_not] at absolute
      have nonempty : path ≠ "" := by
        intro empty
        rw [empty] at found
        cases found
      have begins := startsWith_slash_iff.mp (absolute located nonempty)
      exact Option.some.inj (found.symm.trans begins)
    · exact proper.slash located c found

theorem Proper.urlunparse_eq (proper : Proper builtins netloc path) :
    urlunparse scheme netloc path =
      String.ofList (scheme.toList ++ ':' :: address netloc path) := by
  apply String.toList_inj.mp
  rw [String.toList_ofList, urlunparse, address]
  by_cases located : netloc = ""
  · subst located
    rw [if_neg (not_not.mpr rfl)]
    by_cases twice : Str.startsWith path "//"
    · have begins : Str.startsWith path "/" := by
        rw [Str.startsWith, List.isPrefixOf_iff_prefix] at twice ⊢
        exact List.IsPrefix.trans (by decide) twice
      rw [if_pos twice, if_neg (fun relative => relative.2.2 begins)]
      simp
    · rw [if_neg twice]
      by_cases absolute : path = "" ∨ Str.startsWith path "/"
      · rw [if_pos absolute, if_neg (by tauto)]
        simp
      · rw [if_neg absolute, if_pos (by tauto)]
        simp
  · have begins : ¬ (path ≠ "" ∧ ¬ Str.startsWith path "/") := by
      intro relative
      apply relative.2
      rw [startsWith_slash_iff]
      cases chars : path.toList with
      | nil => exact absurd (String.toList_eq_nil_iff.mp chars) relative.1
      | cons c rest =>
          rw [proper.slash located c (by rw [chars]; rfl)]
          rfl
    rw [if_pos located, if_neg begins, if_neg (fun relative => located relative.1)]
    simp

/-- Proper parts are put together to a URL that is taken apart into them. -/
theorem Proper.urlsplit_urlunparse (isScheme : Url.IsScheme scheme)
    (proper : Proper builtins netloc path) :
    ∃ query, Url.urlsplit builtins (urlunparse scheme netloc path) =
      .ok ⟨scheme, netloc, path, query⟩ := by
  rw [proper.urlunparse_eq]
  rcases proper.address_cases with ⟨absolute, slash⟩ | ⟨relative, rfl, single⟩
  · rw [absolute]
    have split := Url.urlsplit_of_parts isScheme proper.isNetloc proper.isPath slash
      proper.netlocSafe proper.pathSafe none
    rwa [Url.queryTail, List.append_nil] at split
  · refine ⟨"", ?_⟩
    rw [relative, Url.urlsplit_of_scheme isScheme, List.filter_eq_self.mpr]
    · exact Url.splitRest_of_path proper.isPath single
    · intro c mem
      rw [proper.pathSafe c mem]
      rfl

/-- Proper parts are put together in one way. -/
theorem urlunparse_inj {netloc' path' : String} (isScheme : Url.IsScheme scheme)
    (proper : Proper builtins netloc path) (proper' : Proper builtins netloc' path')
    (same : urlunparse scheme netloc path = urlunparse scheme netloc' path') :
    netloc = netloc' ∧ path = path' := by
  rcases proper.urlsplit_urlunparse isScheme with ⟨query, split⟩
  rcases proper'.urlsplit_urlunparse isScheme with ⟨query', split'⟩
  rw [same, split'] at split
  cases split
  exact ⟨rfl, rfl⟩

/-! ## Taking parts -/

theorem mem_of_mem_splitScheme {url : List Char} {c : Char}
    (mem : c ∈ (Url.splitScheme url).2) : c ∈ url := by
  rw [Url.splitScheme] at mem
  split at mem
  next first others rest _ behind =>
    split at mem
    · have within : c ∈ url.dropWhile (· != ':') := by
        rw [behind]
        exact List.mem_cons_of_mem _ mem
      exact (List.dropWhile_sublist _).subset within
    · exact mem
  next => exact mem

/-- The parts of a URL are proper. -/
theorem proper_of_urlsplit {url : String} {parts : SplitResult}
    (split : Url.urlsplit builtins url = .ok parts) :
    Proper builtins parts.netloc parts.path := by
  generalize kept : (url.toList.dropWhile Url.isC0OrSpace).filter
    (!Url.isUnsafe ·) = trimmed
  have restSafe : ∀ c ∈ (Url.splitScheme trimmed).2, Url.isUnsafe c = false := by
    intro c mem
    have among := mem_of_mem_splitScheme mem
    rw [← kept, List.mem_filter, Bool.not_eq_true'] at among
    exact among.2
  have taken : Url.splitRest builtins (Url.splitScheme trimmed).1
      (Url.splitScheme trimmed).2 = .ok parts := by
    rw [← split, Url.urlsplit, kept]
    rfl
  rcases Url.parts_of_splitRest taken with ⟨-, isNetloc, isPath, more, located | bare⟩
  · rcases located with ⟨whole, slash⟩
    rw [whole] at restSafe
    refine ⟨isNetloc, isPath, fun _ => slash, ?_, ?_⟩
    · exact fun c mem => restSafe c (by simp [mem])
    · exact fun c mem => restSafe c (by simp [mem])
  · rcases bare with ⟨none, whole, -⟩
    rw [whole] at restSafe
    refine ⟨isNetloc, isPath, fun located => absurd none located, ?_, ?_⟩
    · intro c mem
      rw [none] at mem
      cases mem
    · exact fun c mem => restSafe c (by simp [mem])

/-- A part of a path from its beginning on is a path. -/
theorem Proper.initial {initial : String} (proper : Proper builtins netloc path)
    (begins : initial.toList <+: path.toList) : Proper builtins netloc initial where
  isNetloc := proper.isNetloc
  isPath := ⟨fun c mem => proper.isPath.query c (begins.subset mem),
    fun c mem => proper.isPath.fragment c (begins.subset mem)⟩
  slash := by
    intro located c found
    apply proper.slash located
    rcases begins with ⟨more, whole⟩
    rw [← whole, List.head?_append, found]
    rfl
  netlocSafe := proper.netlocSafe
  pathSafe := fun c mem => proper.pathSafe c (begins.subset mem)

/-- Parts are no longer than what they were taken from. -/
theorem length_of_splitRest {rest : List Char} {parts : SplitResult}
    (taken : Url.splitRest builtins scheme rest = .ok parts) :
    parts.netloc.toList.length + parts.path.toList.length ≤ rest.length := by
  rcases Url.parts_of_splitRest taken with ⟨-, -, -, more, located | bare⟩
  · rw [located.1]
    simp
    omega
  · rw [bare.1, bare.2.1]
    simp

/-- Slashes before a network location do not belong to the parts. -/
theorem length_of_splitRest_slashes {rest : List Char} {parts : SplitResult}
    (taken : Url.splitRest builtins scheme ('/' :: '/' :: rest) = .ok parts) :
    parts.netloc.toList.length + parts.path.toList.length ≤ rest.length := by
  rcases Url.parts_of_splitRest taken with ⟨-, -, -, more, located | bare⟩
  · rw [List.cons_inj_right, List.cons_inj_right] at located
    rw [located.1]
    simp
  · exact absurd ⟨rest, rfl⟩ bare.2.2

/-! ## Cutting a path -/

/-- The last segment of a path. -/
def lastSegment (path : List Char) : List Char := path.rtakeWhile (· != '/')

theorem toList_dropParams (path : String) :
    (dropParams path).toList = path.toList.rdropWhile (· != '/') ++
      (lastSegment path.toList).takeWhile (· != ';') := by
  have whole := @List.rdropWhile_append_rtakeWhile _ (· != '/') path.toList
  have before : path.toList.take
      (path.toList.length - (path.toList.rtakeWhile (· != '/')).length) =
      path.toList.rdropWhile (· != '/') := by
    have lengths := congrArg List.length whole
    rw [List.length_append] at lengths
    rw [← lengths, Nat.add_sub_cancel]
    exact (List.prefix_iff_eq_take.mp (List.rdropWhile_prefix _ _)).symm
  rw [dropParams, String.toList_append, Str.take, String.toList_ofList, Str.before,
    String.toList_ofList]
  change path.toList.take
    (path.toList.length - (Str.afterLast '/' path).toList.length) ++
      (Str.afterLast '/' path).toList.takeWhile (· != ';') = _
  rw [Str.afterLast, String.toList_ofList]
  exact congrArg (· ++ _) before

theorem toList_rstripSlash (path : String) :
    (rstripSlash path).toList = path.toList.rdropWhile (· = '/') :=
  String.toList_ofList

/-- Parameters are what begins with a semicolon in the last segment. -/
theorem toList_dropParams_of_append {kept params : List Char}
    (whole : path.toList = kept ++ params) (plain : ';' ∉ lastSegment kept)
    (last : '/' ∉ params) (begins : ∀ c, params.head? = some c → c = ';') :
    (dropParams path).toList = kept := by
  have inLast : ∀ c ∈ params.reverse, (c != '/') = true := by
    intro c mem
    rw [bne_iff_ne]
    intro same
    exact last (same ▸ List.mem_reverse.mp mem)
  have segment : lastSegment (kept ++ params) = lastSegment kept ++ params := by
    rw [lastSegment, lastSegment, List.rtakeWhile, List.rtakeWhile, List.reverse_append,
      List.takeWhile_append_of_pos inLast, List.reverse_append, List.reverse_reverse]
  have before : (kept ++ params).rdropWhile (· != '/') =
      kept.rdropWhile (· != '/') := by
    rw [List.rdropWhile, List.rdropWhile, List.reverse_append,
      List.dropWhile_append_of_pos inLast]
  have cut : (lastSegment kept ++ params).takeWhile (· != ';') = lastSegment kept := by
    apply takeWhile_append_of_head
    · intro c mem
      rw [bne_iff_ne]
      exact fun same => plain (same ▸ mem)
    · intro c found
      rw [begins c found]
      rfl
  rw [toList_dropParams, whole, segment, before, cut]
  exact List.rdropWhile_append_rtakeWhile

theorem dropParams_eq_self_iff :
    dropParams path = path ↔ ';' ∉ lastSegment path.toList := by
  constructor
  · intro same mem
    have whole := congrArg String.toList same
    rw [toList_dropParams] at whole
    have parts := @List.rdropWhile_append_rtakeWhile _ (· != '/') path.toList
    have kept := List.append_cancel_left (whole.trans parts.symm)
    exact absurd rfl (bne_iff_ne.mp (List.takeWhile_eq_self_iff.mp kept ';' mem))
  · intro plain
    apply String.toList_inj.mp
    exact toList_dropParams_of_append (List.append_nil _).symm plain
      (List.not_mem_nil) (fun c found => nomatch found)

/-- What is dropped from a path as parameters. -/
theorem exists_params (path : String) : ∃ params,
    path.toList = (dropParams path).toList ++ params ∧ '/' ∉ params ∧
      ∀ c, params.head? = some c → c = ';' := by
  refine ⟨(lastSegment path.toList).dropWhile (· != ';'), ?_, ?_, ?_⟩
  · rw [toList_dropParams, List.append_assoc, List.takeWhile_append_dropWhile]
    exact (List.rdropWhile_append_rtakeWhile).symm
  · intro mem
    have among := (List.dropWhile_sublist _).subset mem
    have other := List.mem_rtakeWhile_imp among
    exact absurd rfl (bne_iff_ne.mp other)
  · intro c found
    have stops := head?_dropWhile_eq_false found
    exact bne_eq_false_iff_eq.mp stops

/-! ## White space at the end -/

/-- Network location and path do not end with white space. -/
def Visible (netloc path : String) : Prop :=
  ∀ final, (netloc.toList ++ path.toList).getLast? = some final →
    Str.isSpace final = false

/-- Stripping a URL takes white space off what stands behind its scheme. -/
theorem strip_of_scheme (known : scheme ∈ ["http", "https"]) (rest : List Char) :
    Str.strip (String.ofList (scheme.toList ++ ':' :: rest)) =
      String.ofList (scheme.toList ++ ':' :: rest.rdropWhile Str.isSpace) := by
  have first : ∀ c, (scheme.toList ++ ':' :: rest).head? = some c →
      Str.isSpace c = false := by
    simp only [List.mem_cons, List.not_mem_nil, or_false] at known
    intro c found
    rcases known with rfl | rfl
    · cases found
      decide
    · cases found
      decide
  have last : ∀ c, (scheme.toList ++ [':']).getLast? = some c →
      Str.isSpace c = false := by
    intro c found
    rw [List.getLast?_append] at found
    cases found
    decide
  apply String.toList_inj.mp
  rw [Str.toList_strip, String.toList_ofList, String.toList_ofList, trim,
    dropWhile_of_head first, List.append_cons, rdropWhile_append_of_kept last,
    ← List.append_cons]

/-- Slashes are no white space. -/
theorem rdropWhile_slashes (rest : List Char) :
    ('/' :: '/' :: rest).rdropWhile Str.isSpace =
      '/' :: '/' :: rest.rdropWhile Str.isSpace := by
  have last : ∀ c, ['/', '/'].getLast? = some c → Str.isSpace c = false := by
    intro c found
    cases found
    decide
  exact @rdropWhile_append_of_kept _ Str.isSpace ['/', '/'] rest last

theorem length_rdropWhile_lt {items : List Char}
    (visible : ¬ ∀ final, items.getLast? = some final → Str.isSpace final = false) :
    (items.rdropWhile Str.isSpace).length < items.length := by
  have begins : items.rdropWhile Str.isSpace <+: items := List.rdropWhile_prefix _ _
  apply lt_of_le_of_ne begins.length_le
  intro same
  exact visible (rdropWhile_eq_self_iff_getLast?.mp (begins.eq_of_length same))

/-- A URL that ends with no white space is stripped of nothing. -/
theorem Proper.strip_of_visible (known : scheme ∈ ["http", "https"])
    (proper : Proper builtins netloc path) (visible : Visible netloc path) :
    Str.strip (urlunparse scheme netloc path) = urlunparse scheme netloc path := by
  have kept := rdropWhile_eq_self_iff_getLast?.mpr visible
  rw [proper.urlunparse_eq, strip_of_scheme known]
  rcases proper.address_cases with ⟨absolute, -⟩ | ⟨relative, rfl, -⟩
  · rw [absolute, rdropWhile_slashes, kept]
  · rw [relative]
    exact congrArg (fun rest => String.ofList (scheme.toList ++ ':' :: rest)) kept

theorem Proper.scheme_of_strip {parts : SplitResult} (isScheme : Url.IsScheme scheme)
    (known : scheme ∈ ["http", "https"]) (proper : Proper builtins netloc path)
    (split : Url.urlsplit builtins (Str.strip (urlunparse scheme netloc path)) =
      .ok parts) : parts.scheme = scheme := by
  rw [proper.urlunparse_eq, strip_of_scheme known, Url.urlsplit_of_scheme isScheme]
    at split
  exact (Url.parts_of_splitRest split).1

/-- A URL that ends with white space loses some of its parts. -/
theorem Proper.length_of_blank {parts : SplitResult} (isScheme : Url.IsScheme scheme)
    (known : scheme ∈ ["http", "https"]) (proper : Proper builtins netloc path)
    (blank : ¬ Visible netloc path)
    (split : Url.urlsplit builtins (Str.strip (urlunparse scheme netloc path)) =
      .ok parts) :
    parts.netloc.toList.length + parts.path.toList.length <
      netloc.toList.length + path.toList.length := by
  have shorter := length_rdropWhile_lt blank
  rw [List.length_append] at shorter
  rw [proper.urlunparse_eq, strip_of_scheme known, Url.urlsplit_of_scheme isScheme]
    at split
  rcases proper.address_cases with ⟨absolute, -⟩ | ⟨relative, rfl, -⟩
  · rw [absolute, rdropWhile_slashes] at split
    have taken := length_of_splitRest_slashes split
    exact (taken.trans (List.length_filter_le _ _)).trans_lt shorter
  · rw [relative] at split
    have taken := length_of_splitRest split
    exact (taken.trans (List.length_filter_le _ _)).trans_lt shorter

end Parts

/-! ## Normalizing once more -/

section Normalizing

variable {builtins : Builtins} {raw base : String} {parts : SplitResult}

/-- The URL holds no name and no password. -/
def Anonymous (parts : SplitResult) : Prop :=
  ¬ (parts.username.getD "" ≠ "" ∨ parts.password.getD "" ≠ "")

instance (parts : SplitResult) : Decidable (Anonymous parts) :=
  inferInstanceAs (Decidable (¬ _))

/-- Name and password are read from the network location. -/
theorem Anonymous.of_netloc {scheme path query : String} (anonymous : Anonymous parts) :
    Anonymous ⟨scheme, parts.netloc, path, query⟩ := by
  cases parts
  exact anonymous

theorem normalizeBaseUrl_of_split (nonempty : raw ≠ "")
    (split : Url.urlsplit builtins (Str.strip raw) = .ok parts) :
    normalizeBaseUrl builtins raw =
      if parts.scheme ∈ ["http", "https"] ∧ Anonymous parts then
        .ok (urlunparse parts.scheme parts.netloc (rstripSlash (dropParams parts.path)))
      else .error .inferenceRoutingError := by
  rw [normalizeBaseUrl, if_neg nonempty, split]
  change (if parts.scheme ∉ ["http", "https"] then _ else
    if parts.username.getD "" ≠ "" ∨ parts.password.getD "" ≠ "" then _ else _) = _
  by_cases known : parts.scheme ∈ ["http", "https"]
  · rw [if_neg (not_not.mpr known)]
    by_cases named : parts.username.getD "" ≠ "" ∨ parts.password.getD "" ≠ ""
    · have refused : ¬ (parts.scheme ∈ ["http", "https"] ∧ Anonymous parts) :=
        fun both => both.2 named
      rw [if_neg refused, if_pos named]
      rfl
    · have allowed : parts.scheme ∈ ["http", "https"] ∧ Anonymous parts :=
        ⟨known, named⟩
      rw [if_pos allowed, if_neg named]
      rfl
  · have refused : ¬ (parts.scheme ∈ ["http", "https"] ∧ Anonymous parts) :=
      fun both => known both.1
    rw [if_neg refused, if_pos known]
    rfl

theorem normalizeBaseUrl_eq_ok_iff :
    normalizeBaseUrl builtins raw = .ok base ↔ raw ≠ "" ∧
      ∃ parts, Url.urlsplit builtins (Str.strip raw) = .ok parts ∧
        parts.scheme ∈ ["http", "https"] ∧ Anonymous parts ∧
        urlunparse parts.scheme parts.netloc (rstripSlash (dropParams parts.path)) =
          base := by
  constructor
  · intro normal
    have nonempty : raw ≠ "" := by
      intro empty
      rw [normalizeBaseUrl, if_pos empty] at normal
      cases normal
    cases split : Url.urlsplit builtins (Str.strip raw) with
    | error error =>
        rw [normalizeBaseUrl, if_neg nonempty, split] at normal
        cases normal
    | ok parts =>
        rw [normalizeBaseUrl_of_split nonempty split] at normal
        split at normal
        next allowed =>
          cases normal
          exact ⟨nonempty, parts, rfl, allowed.1, allowed.2, rfl⟩
        next => cases normal
  · intro normal
    rcases normal with ⟨nonempty, parts, split, known, anonymous, same⟩
    rw [normalizeBaseUrl_of_split nonempty split, if_pos ⟨known, anonymous⟩, same]

theorem isScheme_of_known {scheme : String} (known : scheme ∈ ["http", "https"]) :
    Url.IsScheme scheme := by
  simp only [List.mem_cons, List.not_mem_nil, or_false] at known
  rcases known with rfl | rfl
  · exact Url.isScheme_http
  · exact Url.isScheme_https

/-- What is left of the path of a base URL. -/
theorem prefix_path (path : String) :
    (rstripSlash (dropParams path)).toList <+: path.toList := by
  rcases exists_params path with ⟨params, whole, -⟩
  rw [toList_rstripSlash]
  exact (List.rdropWhile_prefix _ _).trans ⟨params, whole.symm⟩

/-- A normalized URL is normal exactly if its path has no parameters and it does not
end with white space. -/
theorem normalizeBaseUrl_self_iff {scheme netloc path : String}
    (known : scheme ∈ ["http", "https"]) (proper : Proper builtins netloc path)
    (anonymous : ∀ query, Anonymous ⟨scheme, netloc, path, query⟩)
    (stripped : rstripSlash path = path) :
    normalizeBaseUrl builtins (urlunparse scheme netloc path) =
        .ok (urlunparse scheme netloc path) ↔
      dropParams path = path ∧ Visible netloc path := by
  have isScheme := isScheme_of_known known
  rw [normalizeBaseUrl_eq_ok_iff]
  constructor
  · intro again
    rcases again with ⟨-, parts, split, -, -, same⟩
    have properAgain := proper_of_urlsplit split
    have begins := prefix_path parts.path
    rw [proper.scheme_of_strip isScheme known split] at same
    rcases urlunparse_inj isScheme (properAgain.initial begins) proper same with
      ⟨netlocAgain, pathAgain⟩
    have visible : Visible netloc path := by
      by_contra blank
      have shorter := proper.length_of_blank isScheme known blank split
      have longer := begins.length_le
      rw [pathAgain] at longer
      rw [netlocAgain] at shorter
      omega
    refine ⟨?_, visible⟩
    rcases proper.urlsplit_urlunparse isScheme with ⟨query, kept⟩
    rw [proper.strip_of_visible known visible, kept] at split
    cases split
    rcases exists_params path with ⟨params, whole, -⟩
    have initial : (dropParams path).toList <+: path.toList := ⟨params, whole.symm⟩
    have covers : path.toList.length ≤ (dropParams path).toList.length := by
      have shorter := (List.rdropWhile_prefix (· = '/') (dropParams path).toList).length_le
      rwa [← toList_rstripSlash, pathAgain] at shorter
    exact String.toList_inj.mp (initial.eq_of_length_le covers)
  · intro settled
    rcases settled with ⟨plain, visible⟩
    refine ⟨?_, ?_⟩
    · rw [proper.urlunparse_eq]
      intro empty
      have chars := congrArg String.toList empty
      simp at chars
    · rcases proper.urlsplit_urlunparse isScheme with ⟨query, split⟩
      refine ⟨_, ?_, known, anonymous query, ?_⟩
      · rw [proper.strip_of_visible known visible]
        exact split
      · rw [plain, stripped]

/-! ## Base URLs that normalizing settles -/

/-- The path of the URL is followed by slashes and these by parameters, its last segment
has no parameters of its own, and the URL up to there does not end with white space. -/
def Settled (parts : SplitResult) : Prop :=
  ∃ path slashes params : List Char, parts.path.toList = path ++ (slashes ++ params) ∧
    (∀ c ∈ slashes, c = '/') ∧ path.getLast? ≠ some '/' ∧
    (∀ c, params.head? = some c → c = ';') ∧ '/' ∉ params ∧ ';' ∉ lastSegment path ∧
    ∀ final, (parts.netloc.toList ++ path).getLast? = some final →
      Str.isSpace final = false

theorem lastSegment_append_slashes {path slashes : List Char}
    (plain : ';' ∉ lastSegment path) (areSlashes : ∀ c ∈ slashes, c = '/') :
    ';' ∉ lastSegment (path ++ slashes) := by
  induction slashes using List.reverseRecOn with
  | nil => rwa [List.append_nil]
  | append_singleton rest final _ =>
      rw [areSlashes final (by simp), ← List.append_assoc, lastSegment,
        List.rtakeWhile_concat_neg]
      · exact List.not_mem_nil
      · decide

theorem settled_iff : Settled parts ↔
    dropParams (rstripSlash (dropParams parts.path)) =
        rstripSlash (dropParams parts.path) ∧
      Visible parts.netloc (rstripSlash (dropParams parts.path)) := by
  constructor
  · intro settled
    rcases settled with ⟨path, slashes, params, whole, areSlashes, last, begins, within,
      plain, visible⟩
    rw [← List.append_assoc] at whole
    have dropped := toList_dropParams_of_append whole
      (lastSegment_append_slashes plain areSlashes) within begins
    have kept : (rstripSlash (dropParams parts.path)).toList = path := by
      rw [toList_rstripSlash, dropped, rdropWhile_append_of_last]
      · exact fun c mem => decide_eq_true (areSlashes c mem)
      · intro final found
        rw [decide_eq_false_iff_not]
        intro same
        exact last (same ▸ found)
    rw [dropParams_eq_self_iff, Visible, kept]
    exact ⟨plain, visible⟩
  · intro settled
    rcases settled with ⟨plain, visible⟩
    rcases exists_params parts.path with ⟨params, whole, within, begins⟩
    refine ⟨(rstripSlash (dropParams parts.path)).toList,
      (dropParams parts.path).toList.rtakeWhile (· = '/'), params, ?_, ?_, ?_, begins,
      within, dropParams_eq_self_iff.mp plain, visible⟩
    · rw [toList_rstripSlash, ← List.append_assoc, List.rdropWhile_append_rtakeWhile]
      exact whole
    · intro c mem
      have slash := @List.mem_rtakeWhile_imp _ (· = '/') _ c mem
      rwa [decide_eq_true_eq] at slash
    · intro slash
      rw [toList_rstripSlash] at slash
      have stops := rdropWhile_eq_self_iff_getLast?.mp
        (List.rdropWhile_idempotent (· = '/') _) '/' slash
      rw [decide_eq_false_iff_not] at stops
      exact stops rfl

/-- The resource of an endpoint behind its base URL. -/
def suffix (resource base : String) : String :=
  if Str.endsWith base "/v1" then resource else "/v1" ++ resource

/-- The base URL stays as it is when it is normalized again, and the endpoint is the
same for it as for the URL it was made from. -/
structure NormalAgain (builtins : Builtins) (raw base : String) : Prop where
  again : normalizeBaseUrl builtins base = .ok base
  endpoint : InferenceEndpoint.fromBaseUrl builtins raw =
    InferenceEndpoint.fromBaseUrl builtins base
  urls : InferenceEndpoint.fromBaseUrl builtins base =
    .ok ⟨base, base ++ suffix "/chat/completions" base, base ++ suffix "/models" base⟩

theorem buildUrl_of_normal {resource : String}
    (again : normalizeBaseUrl builtins base = .ok base) :
    buildUrl builtins resource base = .ok (base ++ suffix resource base) := by
  rw [buildUrl, again, suffix]
  change (if Str.endsWith base "/v1" then _ else _) = _
  split
  · rfl
  · rw [← String.append_assoc]
    rfl

/-- The endpoint of a URL that is normalized to one that stays as it is. -/
theorem fromBaseUrl_of_normal (normal : normalizeBaseUrl builtins raw = .ok base)
    (again : normalizeBaseUrl builtins base = .ok base) :
    InferenceEndpoint.fromBaseUrl builtins raw =
      .ok ⟨base, base ++ suffix "/chat/completions" base,
        base ++ suffix "/models" base⟩ := by
  rw [InferenceEndpoint.fromBaseUrl, normal]
  change (buildChatCompletionsUrl builtins base).bind _ = _
  rw [buildChatCompletionsUrl, buildUrl_of_normal again]
  change (buildModelsUrl builtins base).bind _ = _
  rw [buildModelsUrl, buildUrl_of_normal again]
  rfl

/-- A normalized base URL stays as it is exactly if the URL it was made from is settled
in one pass. -/
theorem normalAgain_iff (normal : normalizeBaseUrl builtins raw = .ok base) :
    NormalAgain builtins raw base ↔
      ∃ parts, Url.urlsplit builtins (Str.strip raw) = .ok parts ∧ Settled parts := by
  rcases normalizeBaseUrl_eq_ok_iff.mp normal with
    ⟨-, parts, split, known, anonymous, same⟩
  have proper := (proper_of_urlsplit split).initial (prefix_path parts.path)
  have stripped : rstripSlash (rstripSlash (dropParams parts.path)) =
      rstripSlash (dropParams parts.path) := by
    apply String.toList_inj.mp
    rw [toList_rstripSlash, toList_rstripSlash]
    exact List.rdropWhile_idempotent _ _
  have once := normalizeBaseUrl_self_iff known proper
    (fun _ => anonymous.of_netloc) stripped
  rw [← settled_iff, same] at once
  constructor
  · exact fun stays => ⟨parts, split, once.mp stays.again⟩
  · intro settled
    rcases settled with ⟨parts', split', settled⟩
    cases split.symm.trans split'
    have again := once.mpr settled
    refine ⟨again, ?_, fromBaseUrl_of_normal again again⟩
    rw [fromBaseUrl_of_normal normal again, fromBaseUrl_of_normal again again]

/-- Trailing slashes and the parameters behind them are taken off at once. -/
theorem normalAgain_iff_backend :
    NormalAgain (Builtins.sample []) " https://vllm.inference:8000/v1//;draft?key=1\n"
      "https://vllm.inference:8000/v1" := by
  have normal : normalizeBaseUrl (Builtins.sample [])
      " https://vllm.inference:8000/v1//;draft?key=1\n" =
      .ok "https://vllm.inference:8000/v1" := by decide +kernel
  refine (normalAgain_iff normal).mpr
    ⟨⟨"https", "vllm.inference:8000", "/v1//;draft", "key=1"⟩, by decide +kernel,
      ['/', 'v', '1'], ['/', '/'], [';', 'd', 'r', 'a', 'f', 't'], rfl, ?_⟩
  refine ⟨by decide, by decide, ?_, by decide, by decide, ?_⟩
  · intro c found
    cases found
    rfl
  · intro final found
    cases found
    rfl

/-- Two base URLs that change when they are normalized again: parameters come to the
end where slashes were, and white space does. The chat URL of an endpoint is then not
behind its base URL. -/
theorem normalizeBaseUrl_twice :
    normalizeBaseUrl (Builtins.sample []) "http://host/a;b/" = .ok "http://host/a;b" ∧
      normalizeBaseUrl (Builtins.sample []) "http://host/a;b" = .ok "http://host/a" ∧
      (InferenceEndpoint.fromBaseUrl (Builtins.sample []) "http://host/a;b/").map
          (fun endpoint => (endpoint.baseUrl, endpoint.chatCompletionsUrl)) =
        .ok ("http://host/a;b", "http://host/a/v1/chat/completions") ∧
      normalizeBaseUrl (Builtins.sample []) "http://host /" = .ok "http://host " ∧
      normalizeBaseUrl (Builtins.sample []) "http://host " = .ok "http://host" ∧
      ¬ NormalAgain (Builtins.sample []) "http://host/a;b/" "http://host/a;b" := by
  have other : normalizeBaseUrl (Builtins.sample []) "http://host/a;b" =
      .ok "http://host/a" := by decide +kernel
  refine ⟨by decide +kernel, other, by decide +kernel, by decide +kernel,
    by decide +kernel, ?_⟩
  intro stays
  exact absurd (Except.ok.inj (stays.again.symm.trans other)) (by decide)

end Normalizing

end PrivateAiWorkspace.ControlPlane.BaseUrl
