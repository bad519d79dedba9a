import PrivateAiWorkspace.Dispatcher.Cluster
import PrivateAiWorkspace.Lists.Trimming

/-!
# Names and labels of a Job

What the API server demands of the name of a Job and of the labels of a Job and a
pod, and that every manifest fulfils it: identifiers are replaced, cut and trimmed,
and what is trimmed away entirely has a fixed substitute.
-/

namespace PrivateAiWorkspace.Dispatcher

open PrivateAiWorkspace.Lists Python

universe u

/-- What is said of an item that may be missing is decided on that item, also where its
type is finite. -/
instance (priority := 2000) decidableForallFound {α : Type u} (property : α → Prop)
    [DecidablePred property] (found : Option α) :
    Decidable (∀ item ∈ found, property item) :=
  Option.decidableForallMem found

/-- A text of certain characters that begins and ends with some of them and keeps
to a bound. -/
structure Spelled (inner ends : List Char) (bound : Nat) (text : String) : Prop where
  nonempty : text ≠ ""
  short : text.length ≤ bound
  inside : ∀ c ∈ text.toList, c ∈ inner
  first : ∀ c ∈ text.toList.head?, c ∈ ends
  last : ∀ c ∈ text.toList.getLast?, c ∈ ends

namespace Spelled

variable {inner ends : List Char} {bound : Nat} {text : String}

theorem iff_conditions : Spelled inner ends bound text ↔
    text ≠ "" ∧ text.length ≤ bound ∧ (∀ c ∈ text.toList, c ∈ inner) ∧
      (∀ c ∈ text.toList.head?, c ∈ ends) ∧ ∀ c ∈ text.toList.getLast?, c ∈ ends := by
  constructor
  · intro spelled
    exact ⟨spelled.nonempty, spelled.short, spelled.inside, spelled.first, spelled.last⟩
  · intro ⟨nonempty, short, inside, first, last⟩
    exact ⟨nonempty, short, inside, first, last⟩

instance : Decidable (Spelled inner ends bound text) :=
  decidable_of_iff _ iff_conditions.symm

/-- A text that is put in front of another one brings the beginning, the other one
the end. -/
theorem append {initial : String} {more : Nat} (spelled : Spelled inner ends bound text)
    (nonempty : initial ≠ "") (length : initial.length ≤ more)
    (inside : ∀ c ∈ initial.toList, c ∈ inner)
    (first : ∀ c ∈ initial.toList.head?, c ∈ ends) :
    Spelled inner ends (more + bound) (initial ++ text) where
  nonempty := by
    intro empty
    exact nonempty (String.append_eq_empty_iff.mp empty).1
  short := by
    rw [String.length_append]
    exact Nat.add_le_add length spelled.short
  inside := by
    intro c mem
    rw [String.toList_append, List.mem_append] at mem
    exact mem.elim (inside c) (spelled.inside c)
  first := by
    intro c found
    have begun : initial.toList ≠ [] := by simpa using nonempty
    rw [String.toList_append, List.head?_append_of_ne_nil _ begun] at found
    exact first c found
  last := by
    intro c found
    have begun : text.toList ≠ [] := by simpa using spelled.nonempty
    rw [String.toList_append, List.getLast?_append_of_ne_nil _ begun] at found
    exact spelled.last c found

end Spelled

/-- A value of a label. -/
def ValidLabel (text : String) : Prop := Spelled labelChars Pattern.alphanumeric 63 text

instance (text : String) : Decidable (ValidLabel text) :=
  inferInstanceAs (Decidable (Spelled labelChars Pattern.alphanumeric 63 text))

/-- The characters a DNS label may begin and end with. -/
def dnsEnds : List Char := Pattern.range 'a' 'z' ++ Pattern.range '0' '9'

/-- A DNS-1123 label that keeps to a bound. -/
def DnsLabel (bound : Nat) (text : String) : Prop :=
  Spelled nameChars dnsEnds bound text

instance (bound : Nat) (text : String) : Decidable (DnsLabel bound text) :=
  inferInstanceAs (Decidable (Spelled nameChars dnsEnds bound text))

/-! ## What is derived from an identifier -/

theorem mem_of_mem_dashRuns {kept text : List Char} {inRun : Bool} {c : Char}
    (dash : '-' ∈ kept) (mem : c ∈ dashRuns kept inRun text) : c ∈ kept := by
  induction text generalizing inRun with
  | nil => cases mem
  | cons next rest ih =>
      rw [dashRuns] at mem
      split at mem
      next isKept =>
        rcases List.mem_cons.mp mem with rfl | later
        · exact isKept
        · exact ih later
      next =>
        split at mem
        · exact ih mem
        · rcases List.mem_cons.mp mem with rfl | later
          · exact dash
          · exact ih later

theorem stripChars_eq_trim (chars text : List Char) :
    stripChars chars text = trim (fun c => decide (c ∈ chars)) text := rfl

/-- A text of certain characters, trimmed of those that may not stand at its ends,
or else its substitute. -/
theorem spelled_orText {inner ends chars text : List Char} {bound : Nat}
    {default : String} (within : ∀ c ∈ text, c ∈ inner) (short : text.length ≤ bound)
    (kept : ∀ c ∈ inner, c ∉ chars → c ∈ ends)
    (substitute : Spelled inner ends bound default) :
    Spelled inner ends bound (orText (stripChars chars text) default) := by
  rw [stripChars_eq_trim, orText]
  have part := trim_sublist (fun c => decide (c ∈ chars)) text
  have trimmed := trimmed_trim (fun c => decide (c ∈ chars)) text
  generalize trim (fun c => decide (c ∈ chars)) text = core at part trimmed
  have inside : ∀ c ∈ core, c ∈ inner := fun c mem => within c (part.subset mem)
  split
  · exact substitute
  next begun =>
    have nonempty : core ≠ [] := by simpa using begun
    constructor
    · simpa using nonempty
    · rw [String.length_ofList]
      exact Nat.le_trans part.length_le short
    · rwa [String.toList_ofList]
    · intro c found
      rw [String.toList_ofList] at found
      exact kept c (inside c (List.mem_of_mem_head? found))
        (of_decide_eq_false (trimmed.head c found))
    · intro c found
      rw [String.toList_ofList] at found
      exact kept c (inside c (List.mem_of_mem_getLast? found))
        (of_decide_eq_false (trimmed.last c found))

theorem validLabel_safeLabel (value : String) : ValidLabel (safeLabel value) := by
  rw [safeLabel]
  apply spelled_orText
  · intro c mem
    exact mem_of_mem_dashRuns (by decide) (List.mem_of_mem_take mem)
  · exact List.length_take_le _ _
  · decide +kernel
  · decide +kernel

theorem dnsLabel_safeName (builtins : Builtins) (value : String) :
    DnsLabel 40 (safeName builtins value) := by
  rw [safeName]
  apply spelled_orText
  · intro c mem
    have stripped := (trim_sublist _ _).subset (List.mem_of_mem_take mem)
    exact mem_of_mem_dashRuns (by decide) stripped
  · exact List.length_take_le _ _
  · decide +kernel
  · decide +kernel

theorem dnsLabel_jobName (builtins : Builtins) (runId : String) :
    DnsLabel 45 (jobName builtins runId) :=
  @Spelled.append _ _ 40 (safeName builtins runId) "tool-" 5
    (dnsLabel_safeName builtins runId) (by decide) (by decide) (by decide +kernel)
    (by decide +kernel)

/-! ## The manifest -/

/-- The labels of the Job in a manifest. -/
def jobMetadataLabels : Json → Labels
  | .obj fields => dictAt "labels" (dictAt "metadata" fields)
  | _ => []

/-- A key of a label: a DNS name and a name behind a slash. -/
def QualifiedKey (key : String) : Prop :=
  ∃ domain name, key = domain ++ ("/" ++ name) ∧ domain.length ≤ 253 ∧
    (∀ part ∈ Str.splitOn '.' domain, DnsLabel 63 part) ∧ ValidLabel name

/-- Labels the API server accepts. -/
def ValidLabels (labels : Labels) : Prop :=
  ∀ entry ∈ labels, QualifiedKey entry.1 ∧
    ∃ text, entry.2 = .str text ∧ ValidLabel text

theorem jobMetadataLabels_buildJobManifest (builtins : Builtins)
    (cfg : JobConfig) (runId tenantId tool : String)
    (arguments : List (String × Json)) :
    jobMetadataLabels (buildJobManifest builtins cfg runId tenantId tool arguments) =
      templateLabels (buildJobManifest builtins cfg runId tenantId tool arguments) := by
  simp [jobMetadataLabels, templateLabels, dictAt, buildJobManifest, jobLabels,
    Json.get, Json.lookup]

theorem qualifiedKey_kubernetes (name : String) (valid : ValidLabel name) :
    QualifiedKey ("app.kubernetes.io" ++ ("/" ++ name)) :=
  ⟨"app.kubernetes.io", name, rfl, by decide,
    by decide +kernel, valid⟩

theorem qualifiedKey_agentTools (name : String) (valid : ValidLabel name) :
    QualifiedKey ("agent-tools" ++ ("/" ++ name)) :=
  ⟨"agent-tools", name, rfl, by decide, by decide +kernel, valid⟩

/-- The labels of a Job are valid, whatever the identifiers are. -/
theorem validLabels_jobLabels {labels : Labels} {runId tenantId tool : String}
    (same : Json.obj labels = jobLabels runId tenantId tool) : ValidLabels labels := by
  rw [jobLabels, Json.obj.injEq] at same
  rw [same]
  intro entry mem
  simp only [List.mem_cons, List.not_mem_nil, or_false] at mem
  rcases mem with rfl | rfl | rfl | rfl | rfl
  · exact ⟨qualifiedKey_kubernetes "name" (by decide +kernel),
      _, rfl, by decide +kernel⟩
  · exact ⟨qualifiedKey_kubernetes "managed-by" (by decide +kernel),
      _, rfl, by decide +kernel⟩
  · exact ⟨qualifiedKey_agentTools "tenant" (by decide +kernel),
      _, rfl, validLabel_safeLabel tenantId⟩
  · exact ⟨qualifiedKey_agentTools "run-id" (by decide +kernel),
      _, rfl, validLabel_safeLabel runId⟩
  · exact ⟨qualifiedKey_agentTools "tool" (by decide +kernel),
      _, rfl, validLabel_safeLabel tool⟩

/-- Names and labels that are derived from an identifier are valid, and so are those
of every manifest. -/
theorem manifest_names_valid (builtins : Builtins) :
    (∀ value, ValidLabel (safeLabel value)) ∧
      (∀ runId, DnsLabel 45 (jobName builtins runId)) ∧
      ∀ cfg runId tenantId tool arguments,
        let manifest := buildJobManifest builtins cfg runId tenantId tool arguments
        (∃ name, manifestName manifest = .str name ∧ DnsLabel 45 name) ∧
          ValidLabels (jobMetadataLabels manifest) ∧
          ValidLabels (templateLabels manifest) := by
  refine ⟨validLabel_safeLabel, dnsLabel_jobName builtins, ?_⟩
  intro cfg runId tenantId tool arguments
  have valid := validLabels_jobLabels
    (templateLabels_buildJobManifest builtins cfg runId tenantId tool arguments)
  refine ⟨⟨jobName builtins runId, manifestName_buildJobManifest .., dnsLabel_jobName ..⟩,
    ?_, valid⟩
  rwa [jobMetadataLabels_buildJobManifest]

end PrivateAiWorkspace.Dispatcher
