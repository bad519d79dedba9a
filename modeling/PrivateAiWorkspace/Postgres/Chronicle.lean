import PrivateAiWorkspace.Postgres.Statements

/-!
# Tables that follow a history

The rows of a table are made of the entries of a history, one after the other, each
with an id of its own. So the table has no two rows of one id, and is in order of
time.
-/

namespace PrivateAiWorkspace.Postgres

variable {α β : Type}

/-- What makes an entry of the history and a row each other's. -/
structure Recording (α β : Type) where
  name : α → String
  time : α → Nat
  id : β → Uuid
  timestamp : β → Nat

/-- The entries of a history have names of their own and increasing times. -/
structure Recording.Orderly (recording : Recording α β) (past : List α) : Prop where
  distinct : (past.map recording.name).Nodup
  ordered : past.Pairwise fun one other => recording.time one < recording.time other

theorem Recording.Orderly.sublist {recording : Recording α β} {short long : List α}
    (orderly : recording.Orderly long) (shorter : short.Sublist long) :
    recording.Orderly short :=
  ⟨orderly.distinct.sublist (shorter.map _), orderly.ordered.sublist shorter⟩

/-- The rows are made of entries of the history, in order. -/
structure Recording.Records (recording : Recording α β) (past : List α)
    (rows : List β) : Prop where
  distinct : (rows.map recording.id).Nodup
  ordered : rows.Pairwise fun one other =>
    recording.timestamp one < recording.timestamp other
  known : ∀ row ∈ rows, ∃ entry ∈ past,
    recording.name entry = (recording.id row).text ∧
      recording.time entry = recording.timestamp row

namespace Recording.Records

variable {recording : Recording α β} {past : List α} {rows rows' : List β}

theorem nil : recording.Records past [] := ⟨List.nodup_nil, .nil, nofun⟩

/-- Later entries need no rows. -/
theorem weaken (records : recording.Records past rows) (more : List α) :
    recording.Records (past ++ more) rows where
  distinct := records.distinct
  ordered := records.ordered
  known row member := by
    rcases records.known row member with ⟨entry, mem, same⟩
    exact ⟨entry, List.mem_append_left more mem, same⟩

/-- A row is known by its id. -/
theorem unique (records : recording.Records past rows) {row other : β}
    (member : row ∈ rows) (member' : other ∈ rows)
    (same : recording.id row = recording.id other) : row = other :=
  List.inj_on_of_nodup_map records.distinct member member' same

/-- A new entry does not have the id of a row. -/
theorem fresh (records : recording.Records past rows) {entry : α} (row : β)
    (orderly : recording.Orderly (past ++ [entry]))
    (named : recording.name entry = (recording.id row).text) :
    ∀ other ∈ rows, recording.id other ≠ recording.id row := by
  intro other member same
  rcases records.known other member with ⟨earlier, mem, name, _⟩
  have distinct := orderly.distinct
  rw [List.map_append, List.nodup_append] at distinct
  apply distinct.2.2 _ (List.mem_map_of_mem mem) _ (List.mem_singleton_self _)
  rw [name, named, same]

/-- A new entry gets a row of its own. -/
theorem snoc (records : recording.Records past rows) {entry : α} (row : β)
    (orderly : recording.Orderly (past ++ [entry]))
    (named : recording.name entry = (recording.id row).text)
    (timed : recording.time entry = recording.timestamp row) :
    recording.Records (past ++ [entry]) (rows ++ [row]) := by
  have fresh := records.fresh row orderly named
  refine ⟨?_, ?_, ?_⟩
  · rw [List.map_append, List.nodup_append]
    refine ⟨records.distinct, List.nodup_singleton _, ?_⟩
    intro id mem other mem' same
    rcases List.mem_map.mp mem with ⟨earlier, member, rfl⟩
    exact fresh earlier member (same.trans (List.mem_singleton.mp mem'))
  · rw [List.pairwise_append]
    refine ⟨records.ordered, List.pairwise_singleton _ _, ?_⟩
    intro earlier member other member'
    rcases records.known earlier member with ⟨before, mem, _, time⟩
    rw [List.mem_singleton.mp member', ← time, ← timed]
    exact (List.pairwise_append.mp orderly.ordered).2.2 before mem entry
      (List.mem_singleton_self _)
  · intro other member
    rcases List.mem_append.mp member with old | new
    · rcases records.known other old with ⟨earlier, mem, same⟩
      exact ⟨earlier, List.mem_append_left _ mem, same⟩
    · rw [List.mem_singleton.mp new]
      exact ⟨entry, by simp, named, timed⟩

/-- A change that keeps ids and times, or drops rows, keeps the record. -/
theorem keep (records : recording.Records past rows)
    (kept : (rows'.map fun row => (recording.id row, recording.timestamp row)).Sublist
      (rows.map fun row => (recording.id row, recording.timestamp row))) :
    recording.Records past rows' := by
  have ids := kept.map Prod.fst
  have times := kept.map Prod.snd
  rw [List.map_map, List.map_map] at ids times
  refine ⟨records.distinct.sublist ids, ?_, ?_⟩
  · exact List.pairwise_map.mp ((List.pairwise_map.mpr records.ordered).sublist times)
  · intro row member
    rcases List.mem_map.mp (kept.subset (List.mem_map_of_mem member)) with
      ⟨old, mem, same⟩
    rcases Prod.mk.inj same with ⟨sameId, sameTime⟩
    rcases records.known old mem with ⟨entry, earlier, name, time⟩
    exact ⟨entry, earlier, by rw [name, sameId], time.trans sameTime⟩

/-- An update that keeps ids and times keeps the record. -/
theorem updateWhere (records : recording.Records past rows) {meant : β → Bool}
    {edit : β → β} (ids : ∀ row, recording.id (edit row) = recording.id row)
    (times : ∀ row, recording.timestamp (edit row) = recording.timestamp row) :
    recording.Records past (Postgres.updateWhere meant edit rows).2 := by
  apply records.keep
  have same : ((Postgres.updateWhere meant edit rows).2.map fun row =>
        (recording.id row, recording.timestamp row)) =
      rows.map fun row => (recording.id row, recording.timestamp row) := by
    rw [Postgres.updateWhere, List.map_map]
    apply List.map_congr_left
    intro row _
    rw [Function.comp_apply]
    split
    · rw [ids, times]
    · rfl
  rw [same]

theorem deleteWhere (records : recording.Records past rows) (meant : β → Bool) :
    recording.Records past (Postgres.deleteWhere meant rows).2 :=
  records.keep (List.filter_sublist.map _)

end Recording.Records

end PrivateAiWorkspace.Postgres
