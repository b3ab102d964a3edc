import VirtualRecords.Proofs.CreationOrder
import VirtualRecords.Proofs.Service.Validity
import VirtualRecords.Proofs.Store.History

/-! Updates and the places of records. A record that is given another payload keeps all that
listings look at: its entity, by which it is selected, and its identifier and time of creation, by
which it is put in order. So a listing after an update is the listing before it with the record
itself replaced, and on every page the same identifiers stand in the same places. -/

namespace VirtualRecords

structure Record.Keeps (record held : Record) : Prop where
  id : record.id = held.id
  entity : record.entity = held.entity
  created : record.created = held.created

theorem Record.keeps_replacePayload (held : Record) (payload : Json.Members) (now : Instant) :
    (held.replacePayload payload now).Keeps held := ⟨rfl, rfl, rfl⟩

section Places

variable {f : Record → Record} {records : List Record}

theorem Record.sortByCreation_map (keeps : ∀ record ∈ records, (f record).Keeps record) :
    sortByCreation (records.map f) = (sortByCreation records).map f := by
  refine (List.map_mergeSort fun a inA b inB => ?_).symm
  rw [creationOrder, creationOrder, (keeps a inA).created, (keeps a inA).id, (keeps b inB).created,
    (keeps b inB).id]

theorem Record.filter_entity_map (keeps : ∀ record ∈ records, (f record).Keeps record)
    (entity : Identifier) :
    (records.map f).filter (·.entity == entity) =
      (records.filter (·.entity == entity)).map f := by
  rw [List.filter_map]
  refine congrArg (List.map f) (List.filter_congr fun record member => ?_)
  rw [Function.comp_apply, (keeps record member).entity]

theorem Window.cut_map (window : Window) (f : Record → Record) (records : List Record) :
    window.cut (records.map f) = (window.cut records).map f := by
  rw [cut, cut, ← List.map_drop, ← List.map_take]

theorem Record.map_id_map (keeps : ∀ record ∈ records, (f record).Keeps record) :
    (records.map f).map Record.id = records.map Record.id := by
  rw [List.map_map]
  exact List.map_congr_left fun record member => (keeps record member).id

end Places

namespace Store

variable {store : Store} {record held : Record}

theorem keeps_replaceIn (present : held ∈ store.records) (keeps : record.Keeps held)
    {other : Record} (member : other ∈ store.records) : (replaceIn record other).Keeps other := by
  unfold replaceIn
  split
  · next same =>
    obtain rfl := eq_of_id member present (same.trans keeps.id)
    exact keeps
  · exact ⟨rfl, rfl, rfl⟩

theorem size_replace (store : Store) (record : Record) : (store.replace record).size = store.size :=
  List.length_map _

theorem list_replace (present : held ∈ store.records) (keeps : record.Keeps held)
    (entity : Identifier) (window : Window) :
    ((store.replace record).list entity window).records.map Record.id =
        (store.list entity window).records.map Record.id ∧
      ((store.replace record).list entity window).total = (store.list entity window).total := by
  have each (other : Record) (member : other ∈ store.records) :
      (replaceIn record other).Keeps other := keeps_replaceIn present keeps member
  have own : (store.replace record).ofEntity entity =
      (store.ofEntity entity).map (replaceIn record) := Record.filter_entity_map each entity
  have sorted : Record.sortByCreation ((store.replace record).ofEntity entity) =
      (Record.sortByCreation (store.ofEntity entity)).map (replaceIn record) := by
    rw [own]
    exact Record.sortByCreation_map fun other member => each other (mem_ofEntity.1 member).1
  simp only [list, Page.ofRecords, sorted, Window.cut_map, List.length_map, and_true]
  refine Record.map_id_map fun other member => each other ?_
  have listed := List.mem_of_mem_drop (List.mem_of_mem_take member)
  exact (mem_ofEntity.1 ((Record.sortByCreation_perm _).mem_iff.1 listed)).1

end Store

namespace Service

variable {service changed : Service} {id : Identifier} {payload : Json} {now : Instant}
  {record : Record}

structure Updated (service changed : Service) (id : Identifier) (payload : Json)
    (record : Record) : Prop where
  kept : ∃ held, service.get id = .ok held ∧ record.Keeps held
  payload : payload = .object record.payload
  stored : changed.get id = .ok record
  others : ∀ other, other ≠ id → changed.get other = service.get other
  size : changed.store.size = service.store.size
  listed : ∀ entity number size,
    (changed.recordsByEntity entity number size).map
        (fun page => (page.records.map Record.id, page.total)) =
      (service.recordsByEntity entity number size).map
        (fun page => (page.records.map Record.id, page.total))

/-- A record that is updated keeps its identity and its place in every listing. -/
theorem update_keeps_place (updated : service.update id payload now = .ok (changed, record)) :
    service.Updated changed id payload record := by
  obtain ⟨held, members, present, rfl, accepted, rfl, rfl⟩ := update_eq_ok.1 updated
  have keeps := held.keeps_replacePayload members now
  have isHeld : service.store.holds held.id = true := Store.holds_iff_exists.2 ⟨held, present, rfl⟩
  have found : (service.store.replace (held.replacePayload members now)).get? =
      Function.update service.store.get? held.id (some (held.replacePayload members now)) :=
    Store.get?_replace isHeld
  refine {
    kept := ⟨held, get_eq_ok.2 ⟨present, rfl⟩, keeps⟩
    payload := (accept_eq_ok.1 accepted).1
    stored := ?_
    others := fun other apart => ?_
    size := service.store.size_replace _
    listed := fun entity number size => ?_ }
  · rw [get, withStore, found, Function.update_self]
  · rw [get, withStore, found, Function.update_of_ne apart, get]
  · rw [recordsByEntity, recordsByEntity]
    split
    · rfl
    · obtain ⟨ids, total⟩ :=
        Store.list_replace present keeps entity ⟨number, service.clamp size⟩
      exact congrArg Except.ok (Prod.ext ids total)

theorem update_keeps_place_renamed :
    let name : Field := (Field.ofType "name" .string).asRequired
    let person (id : BitVec 128) (text : String) : Record :=
      .make ⟨id⟩ ⟨7⟩ [("name", .string text)] ⟨0, 0⟩
    let service : Service :=
      ⟨⟨[⟨⟨7⟩, "Person", none, [name]⟩]⟩, ⟨[person 2 "Ben", person 1 "Ann"], by decide⟩, 20⟩
    let renamed : Record := { person 1 "Zoe" with updated := ⟨5, 0⟩ }
    ∃ changed, service.update ⟨1⟩ (.object [("name", .string "Zoe")]) ⟨5, 0⟩ =
        .ok (changed, renamed) ∧
      service.Updated changed ⟨1⟩ (.object [("name", .string "Zoe")]) renamed := by
  intro name person service renamed
  have present : person 1 "Ann" ∈ service.store.records := by simp [service]
  have clear : Validation.messages [("name", .string "Zoe")] [name] = [] := by decide
  have updated : service.update ⟨1⟩ (.object [("name", .string "Zoe")]) ⟨5, 0⟩ =
      .ok (service.withStore (service.store.replace renamed), renamed) :=
    update_eq_ok.2 ⟨person 1 "Ann", [("name", .string "Zoe")], present, rfl,
      accept_eq_ok.2 ⟨rfl, _, rfl, clear⟩, rfl, rfl⟩
  exact ⟨_, updated, update_keeps_place updated⟩

end Service
end VirtualRecords
