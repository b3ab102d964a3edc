import VirtualRecords.CommandLine.RecordFile
import VirtualRecords.Proofs.Criteria.FlatConditions
import VirtualRecords.Proofs.CreationOrder
import VirtualRecords.Proofs.Service.Paging

/-! Record files and what comes back of them. The elements of a file are walked in their order, and
the first that is not an object ends the walk. Each of the others becomes a record that is made a
millisecond after the one before it, and these times are all that the file's order is kept in: the
identifiers are arbitrary, and so is the order in which a store holds its records. A query without
conditions and without an order of its own puts the records in the order of their times, and its
pages are windows on the list that the file was. -/

namespace VirtualRecords

theorem Instant.compare_addMilliseconds (t : Instant) {m n : Nat} (earlier : m < n) :
    compare (t.addMilliseconds m) (t.addMilliseconds n) = .lt := by
  refine Ordering.then_eq_lt.2 ?_
  rw [Int.compare_eq_lt, Int.compare_eq_eq, Nat.compare_eq_lt]
  simp only [addMilliseconds]
  omega

/-- A query for the records of an entity, all of them and in no order of its own, on pages of some
size. -/
structure Query.AsksForAll (query : Query) (entity : Identifier) : Prop where
  entity : query.entity = entity
  leafless : query.root.leafCount = 0
  noFlat : query.flat = []
  unordered : query.order? = none
  sized : query.size ≠ 0

namespace RecordFile

variable {path : String} {entity : Identifier} {fresh : Nat → Identifier} {now : Instant}
  {place : Nat} {documents : List Json} {loaded : List Record}

theorem records_cons_eq_ok {document : Json} :
    records path entity fresh now place (document :: documents) = .ok loaded ↔
      ∃ payload others, document = .object payload ∧
        records path entity fresh now (place + 1) documents = .ok others ∧
        loaded = .make (fresh place) entity payload (now.addMilliseconds place) :: others := by
  cases document with
  | object payload =>
    rw [records, Outcome.bind_pure_eq_ok]
    simp
  | _ => simp [records]

theorem records_cons_eq_error {document : Json} {e : CommandError} :
    records path entity fresh now place (document :: documents) = .error e ↔
      (document.asObject? = none ∧ e = noObject path place) ∨
        (document.asObject?.isSome = true ∧
          records path entity fresh now (place + 1) documents = .error e) := by
  cases document with
  | object payload =>
    rw [records, Outcome.bind_pure_eq_error]
    simp [Json.asObject?]
  | _ => simp [records, Json.asObject?, eq_comm]

theorem records_eq_error_iff {e : CommandError} :
    records path entity fresh now place documents = .error e ↔
      ∃ before document after, documents = before ++ document :: after ∧
        (∀ earlier ∈ before, earlier.asObject?.isSome = true) ∧ document.asObject? = none ∧
        e = noObject path (place + before.length) := by
  induction documents generalizing place with
  | nil => simp [records]
  | cons first rest ih =>
    rw [records_cons_eq_error, ih]
    constructor
    · rintro (⟨noMembers, rfl⟩ | ⟨object, before, document, after, rfl, objects, noMembers, rfl⟩)
      · exact ⟨[], first, rest, rfl, nofun, noMembers, rfl⟩
      · refine ⟨first :: before, document, after, rfl, List.forall_mem_cons.2 ⟨object, objects⟩,
          noMembers, ?_⟩
        rw [List.length_cons, Nat.add_right_comm, Nat.add_assoc]
    · rintro ⟨before, document, after, parted, objects, noMembers, rfl⟩
      cases before with
      | nil =>
        obtain ⟨rfl, rfl⟩ := List.cons.inj parted
        exact .inl ⟨noMembers, rfl⟩
      | cons other before =>
        obtain ⟨rfl, rfl⟩ := List.cons.inj parted
        obtain ⟨object, objects⟩ := List.forall_mem_cons.1 objects
        refine .inr ⟨object, before, document, after, rfl, objects, noMembers, ?_⟩
        rw [List.length_cons, Nat.add_right_comm, Nat.add_assoc]

theorem documents_of_records
    (made : records path entity fresh now place documents = .ok loaded) :
    loaded.map (fun record => (record.entity, Json.object record.payload)) =
      documents.map (entity, ·) := by
  induction documents generalizing place loaded with
  | nil =>
    cases made
    rfl
  | cons document rest ih =>
    obtain ⟨payload, others, rfl, later, rfl⟩ := records_cons_eq_ok.1 made
    rw [List.map_cons, List.map_cons, ih later]
    rfl

theorem length_of_records (made : records path entity fresh now place documents = .ok loaded) :
    loaded.length = documents.length := by
  have lengths := congrArg List.length (documents_of_records made)
  rwa [List.length_map, List.length_map] at lengths

theorem entity_of_records (made : records path entity fresh now place documents = .ok loaded) :
    ∀ record ∈ loaded, record.entity = entity := by
  intro record member
  have pair : (record.entity, Json.object record.payload) ∈ documents.map (entity, ·) := by
    rw [← documents_of_records made]
    exact List.mem_map.2 ⟨record, member, rfl⟩
  obtain ⟨document, -, same⟩ := List.mem_map.1 pair
  exact (congrArg Prod.fst same).symm

theorem exists_place_of_mem (made : records path entity fresh now place documents = .ok loaded) :
    ∀ record ∈ loaded, ∃ later, place ≤ later ∧ record.created = now.addMilliseconds later := by
  induction documents generalizing place loaded with
  | nil =>
    cases made
    exact nofun
  | cons document rest ih =>
    obtain ⟨payload, others, rfl, later, rfl⟩ := records_cons_eq_ok.1 made
    refine List.forall_mem_cons.2 ⟨⟨place, Nat.le_refl place, rfl⟩, fun record member => ?_⟩
    obtain ⟨behind, reached, time⟩ := ih later record member
    exact ⟨behind, Nat.le_of_succ_le reached, time⟩

theorem ascending_of_records (made : records path entity fresh now place documents = .ok loaded) :
    loaded.Pairwise fun a b => compare a.created b.created = .lt := by
  induction documents generalizing place loaded with
  | nil =>
    cases made
    exact .nil
  | cons document rest ih =>
    obtain ⟨payload, others, rfl, later, rfl⟩ := records_cons_eq_ok.1 made
    refine List.pairwise_cons.2 ⟨fun record member => ?_, ih later⟩
    obtain ⟨behind, reached, time⟩ := exists_place_of_mem later record member
    rw [time]
    exact now.compare_addMilliseconds reached

theorem load_eq_records {tree : FileTree} {dataFolder text : String}
    (found : tree.read (RecordFile.path dataFolder entity) = .ok text)
    (listed : (Json.ofText? text).bind Json.asArray? = some documents) :
    load tree dataFolder entity fresh now =
      records (RecordFile.path dataFolder entity) entity fresh now 0 documents := by
  obtain ⟨place, leads, -⟩ := Outcome.bind_eq_ok.1 found
  simp only [load, leads, found, listed]

end RecordFile

theorem Query.AsksForAll.pages {query : Query} {entity : Identifier} {loaded : List Record}
    (asks : query.AsksForAll entity) (compiler : Compiler)
    (own : ∀ record ∈ loaded, record.entity = entity)
    (ascending : loaded.Pairwise fun a b => compare a.created b.created = .lt)
    (distinct : (loaded.map Record.id).Nodup) (number : UInt64) :
    ∃ plan, (query.withPage number query.size).plan compiler = .ok plan ∧
      ∀ held : List Record, held.Perm (Store.ofRecords loaded).records →
        plan.run held = .ofRecords loaded ⟨number, query.size⟩ := by
  have leafless : query.conditions.leafCount = 0 := by
    rw [Query.conditions, asks.noFlat, List.isEmpty_nil, Bool.not_true, Bool.and_false]
    exact asks.leafless
  obtain ⟨criteria, made, holds⟩ := (asksAll_of_leafless compiler leafless).exists_of_nil
  refine ⟨⟨criteria, none, ⟨number, query.size⟩⟩, ?_, fun held same => ?_⟩
  · exact Query.plan_eq_ok.2 ⟨asks.sized, criteria, made, by rw [← asks.unordered]; rfl⟩
  · rw [Store.records_ofRecords distinct] at same
    have selected : criteria.select held = held := List.filter_eq_self.2 fun record member =>
      (holds record).2 ((own record (same.mem_iff.1 member)).trans asks.entity.symm)
    have apart : (held.map Record.id).Nodup := (same.map Record.id).nodup_iff.2 distinct
    rw [Plan.run, Plan.result_of_unordered rfl, selected,
      Record.sortByCreation_eq_of_ascending ascending same apart]

namespace RecordFile

/-- A record file that holds a list is refused at its first element that is not an object, and its
place is told. Otherwise each element is the payload of one record of the entity, in the order of
the file, and if no two of these records got one identifier, the pages of a query for all of them
are the list again. A list in memory has no more elements than a word counts. -/
theorem fileOrder_kept {tree : FileTree} {dataFolder text : String} {entity : Identifier}
    {documents : List Json} (found : tree.read (path dataFolder entity) = .ok text)
    (listed : (Json.ofText? text).bind Json.asArray? = some documents) (fresh : Nat → Identifier)
    (now : Instant) :
    (∀ e, load tree dataFolder entity fresh now = .error e ↔
      ∃ before document after, documents = before ++ document :: after ∧
        (∀ earlier ∈ before, earlier.asObject?.isSome = true) ∧ document.asObject? = none ∧
        e = noObject (path dataFolder entity) before.length) ∧
    ∀ loaded, load tree dataFolder entity fresh now = .ok loaded →
      loaded.map (fun record => (record.entity, Json.object record.payload)) =
        documents.map (entity, ·) ∧
      ((loaded.map Record.id).Nodup → documents.length ≤ Window.greatestOffset →
        ∀ (compiler : Compiler) (query : Query), query.AsksForAll entity →
          ∃ pages : UInt64 → Page, Page.whole pages = loaded ∧
            ∀ number, ∃ plan, (query.withPage number query.size).plan compiler = .ok plan ∧
              ∀ held : List Record, held.Perm (Store.ofRecords loaded).records →
                plan.run held = pages number) := by
  rw [load_eq_records found listed]
  refine ⟨fun e => ?_, fun loaded made => ?_⟩
  · rw [records_eq_error_iff]
    simp only [Nat.zero_add]
  · refine ⟨documents_of_records made, fun distinct counted compiler query asks => ?_⟩
    have positive : 0 < query.size.toNat :=
      Nat.pos_of_ne_zero fun zero => asks.sized (UInt64.toNat_inj.1 zero)
    have fits : loaded.length ≤ Window.greatestOffset := by
      rwa [length_of_records made]
    exact ⟨fun number => .ofRecords loaded ⟨number, query.size⟩,
      Page.whole_ofRecords positive fits,
      asks.pages compiler (entity_of_records made) (ascending_of_records made) distinct⟩

def twoRecords : FileTree :=
  ⟨[(["data", "records", "00000000-0000-0000-0000-000000000007.json"],
    "[\x7b\"n\":\"b\"\x7d, \x7b\"n\":\"a\"\x7d]")], []⟩

theorem fileOrder_kept_twoRecords :
    let fresh : Nat → Identifier := fun place => ⟨.ofNat 128 (9 - place)⟩
    let query := (Query.ofEntity ⟨7⟩).withPage 0 1
    let shown (record : Record) := (record.id, (record.payload.lookup "n").bind Json.asString?)
    ∃ loaded, load twoRecords "data" ⟨7⟩ fresh ⟨0, 0⟩ = .ok loaded ∧
      loaded.map shown = [(⟨9⟩, some "b"), (⟨8⟩, some "a")] ∧
      ∃ pages : UInt64 → Page, Page.whole pages = loaded ∧
        ∀ number, ∃ plan, (query.withPage number query.size).plan .untyped = .ok plan ∧
          plan.run (Store.ofRecords loaded).records.reverse = pages number := by
  intro fresh query shown
  have found : twoRecords.read (path "data" ⟨7⟩) =
      .ok "[\x7b\"n\":\"b\"\x7d, \x7b\"n\":\"a\"\x7d]" := by decide +kernel
  have counted : ((Json.ofText? "[\x7b\"n\":\"b\"\x7d, \x7b\"n\":\"a\"\x7d]").bind
      Json.asArray?).map List.length = some 2 := by decide +kernel
  have loads : (do return (← load twoRecords "data" ⟨7⟩ fresh ⟨0, 0⟩).map shown) =
      Except.ok [(⟨9⟩, some "b"), (⟨8⟩, some "a")] := by decide +kernel
  obtain ⟨documents, listed, two⟩ := Option.map_eq_some_iff.1 counted
  obtain ⟨loaded, made, rows⟩ := Outcome.bind_pure_eq_ok.1 loads
  have distinct : (loaded.map Record.id).Nodup := by
    have ids : (loaded.map shown).map Prod.fst = [⟨9⟩, ⟨8⟩] := by rw [← rows]; rfl
    rw [List.map_map] at ids
    exact ids ▸ by decide
  obtain ⟨pages, whole, run⟩ := ((fileOrder_kept found listed fresh ⟨0, 0⟩).2 loaded made).2
    distinct (by rw [two]; decide) .untyped query ⟨rfl, rfl, rfl, rfl, by decide⟩
  refine ⟨loaded, made, rows.symm, pages, whole, fun number => ?_⟩
  obtain ⟨plan, planned, same⟩ := run number
  exact ⟨plan, planned, same _ (List.reverse_perm _)⟩

end RecordFile
end VirtualRecords
