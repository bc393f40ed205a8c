import ConfigFanout.Cluster.Simulation
import ConfigFanout.Proofs.TimeTexts

-- What is written of a source is read as that source, to the second. Readers look for members
-- by name, so a record is read back if its parts are and no two of them have one name. Null is
-- read as absent, so the one part that may be null itself is not told from one that is absent.
namespace ConfigFanout

/-- What is written of a value is not null, and the reader gives what is kept of the value. -/
structure Reader.Recovers {α : Type} (reader : Reader α) (write : α → Json) (kept : α → α) :
    Prop where
  read_write : ∀ value, reader (write value) = .ok (kept value)
  write_ne_null : ∀ value, write value ≠ .null

/-- What is kept of a value is what is written of it. -/
theorem Reader.Recovers.kept_eq {α : Type} {reader : Reader α} {write : α → Json} {kept : α → α}
    (recovers : reader.Recovers write kept) {value other : α} (h : write value = write other) :
    kept value = kept other :=
  Except.ok.inj ((recovers.read_write value).symm.trans
    ((congrArg reader h).trans (recovers.read_write other)))

/-! ## Members -/

namespace Json

variable {α : Type} {members : List (String × Option Json)} {json : Json}
variable {reader : Reader α} {write : α → Json} {kept : α → α}

/-- The value is written as a record: those of some members that have a value, and no two with
one name. -/
structure IsRecord (json : Json) (members : List (String × Option Json)) : Prop where
  eq_present : json = .object (present members)
  distinct : (members.map Prod.fst).Nodup

theorem lookup_present_eq_none {name : String} (absent : name ∉ members.map Prod.fst) :
    (present members).lookup name = none := by
  refine List.lookup_eq_none_iff.mpr fun member mem => ?_
  obtain ⟨original, horiginal, hmember⟩ := List.mem_filterMap.mp mem
  obtain ⟨value, -, rfl⟩ := Option.map_eq_some_iff.mp hmember
  have hne : name ≠ original.1 := fun heq => absent (heq ▸ List.mem_map_of_mem horiginal)
  exact bne_iff_ne.mpr hne

theorem lookup_present (distinct : (members.map Prod.fst).Nodup) (name : String) :
    (present members).lookup name = (members.lookup name).join := by
  induction members with
  | nil => rfl
  | cons member rest ih =>
    obtain ⟨other, value⟩ := member
    rw [List.map_cons, List.nodup_cons] at distinct
    have hrest := ih distinct.2
    by_cases heq : name = other
    · subst heq
      rw [List.lookup_cons_self]
      cases value with
      | none =>
        show (present rest).lookup name = none
        exact lookup_present_eq_none distinct.1
      | some value => exact List.lookup_cons_self
    · have hne : (name == other) = false := beq_false_of_ne heq
      rw [List.lookup_cons, hne]
      cases value with
      | none => exact hrest
      | some value =>
        show List.lookup name ((other, value) :: present rest) = _
        rw [List.lookup_cons, hne, hrest]

namespace IsRecord

theorem member?_eq (written : json.IsRecord members) (name : String) :
    json.member? name = (members.lookup name).join := by
  rw [written.eq_present, member?, lookup_present written.distinct]

theorem field?_eq (written : json.IsRecord members) (recovers : reader.Recovers write kept)
    (name : String) (value : α) (hmember : members.lookup name = some (some (write value))) :
    json.field? name reader = .ok (some (kept value)) := by
  rw [field?, written.member?_eq, hmember]
  simp only [Option.join_some, recovers.read_write, Except.map]

/-- A member that may be absent is read back, absent if it was. -/
theorem nullableField?_eq (written : json.IsRecord members)
    (recovers : reader.Recovers write kept) (name : String) (value : Option α)
    (hmember : members.lookup name = some (value.map write)) :
    json.nullableField? name reader = .ok (value.map kept) := by
  rw [nullableField?, field?, written.member?_eq, hmember]
  cases value with
  | none => rfl
  | some value =>
    have hread : Reader.nullable reader (write value) = .ok (some (kept value)) := by
      unfold Reader.nullable
      split
      · next heq => exact absurd heq (recovers.write_ne_null value)
      · rw [recovers.read_write, Except.map]
    simp only [Option.map_some, Option.join_some, hread, Except.map, bind, Except.bind, pure,
      Except.pure]

end IsRecord

end Json

/-! ## Values, lists and maps -/

namespace Reader

variable {α : Type} {reader : Reader α} {write : α → Json} {kept : α → α}

/-- What is read in two parts is read if the first part is, and then the second. -/
theorem bind_eq_ok {ε α β : Type} {first : Except ε α} {second : α → Except ε β} {value : β} :
    first >>= second = .ok value ↔ ∃ part, first = .ok part ∧ second part = .ok value := by
  cases first with
  | error fault => simp [bind, Except.bind]
  | ok part => simp [bind, Except.bind]

theorem map_eq_ok {ε α β : Type} {f : α → β} {result : Except ε α} {value : β} :
    result.map f = .ok value ↔ ∃ part, result = .ok part ∧ f part = value := by
  cases result with
  | error fault => simp [Except.map]
  | ok part => simp [Except.map]

/-- A member that is there was read from something. -/
theorem of_field? {json : Json} {name : String} {value : α}
    (h : json.field? name reader = .ok (some value)) : ∃ member, reader member = .ok value := by
  unfold Json.field? at h
  split at h
  · cases h
  · next member _ =>
    obtain ⟨found, hfound, hvalue⟩ := map_eq_ok.mp h
    cases hvalue
    exact ⟨member, hfound⟩

/-- If it may be null, it was read from something else. -/
theorem of_nullableField? {json : Json} {name : String} {value : α}
    (h : json.nullableField? name reader = .ok (some value)) :
    ∃ member, member ≠ .null ∧ reader member = .ok value := by
  obtain ⟨found, hfound, hjoin⟩ := bind_eq_ok.mp h
  obtain rfl := Option.join_eq_some_iff.mp (Except.ok.inj hjoin)
  obtain ⟨member, hmember⟩ := of_field? hfound
  refine ⟨member, ?_, ?_⟩
  · rintro rfl
    cases hmember
  · unfold nullable at hmember
    split at hmember
    · cases hmember
    · obtain ⟨found, hread, hvalue⟩ := map_eq_ok.mp hmember
      cases hvalue
      exact hread

theorem of_mem_list {json : Json} {values : List α} (h : list reader json = .ok values) :
    ∀ value ∈ values, ∃ item, reader item = .ok value := by
  unfold list at h
  split at h
  · next items =>
    induction items generalizing values with
    | nil =>
      cases h
      exact fun _ mem => absurd mem List.not_mem_nil
    | cons item rest ih =>
      rw [List.mapM_cons] at h
      obtain ⟨first, hfirst, h⟩ := bind_eq_ok.mp h
      obtain ⟨later, hlater, h⟩ := bind_eq_ok.mp h
      cases h
      exact List.forall_mem_cons.mpr ⟨⟨item, hfirst⟩, ih hlater⟩
  · cases h

theorem text_recovers : text.Recovers .string id where
  read_write _ := rfl
  write_ne_null _ := Json.noConfusion

theorem bool_recovers : bool.Recovers .bool id where
  read_write _ := rfl
  write_ne_null _ := Json.noConfusion

theorem int64_recovers : int64.Recovers (.integer ·.toInt) id where
  read_write value := by
    have hlow := value.le_toInt
    have hhigh := value.toInt_lt
    have hlimits : -Int.pow 2 63 ≤ value.toInt ∧ value.toInt < Int.pow 2 63 := ⟨hlow, hhigh⟩
    rw [int64, integer, if_pos hlimits, Except.map, Int64.ofInt_toInt, id]
  write_ne_null _ := Json.noConfusion

theorem mapM_write {β γ : Type} {write : β → γ} {read : γ → Except ReadFault β} {kept : β → β}
    (reads : ∀ value, read (write value) = .ok (kept value)) (values : List β) :
    (values.map write).mapM read = .ok (values.map kept) := by
  induction values with
  | nil => rfl
  | cons value rest ih =>
    rw [List.map_cons, List.mapM_cons, reads, ih]
    rfl

theorem list_recovers (recovers : reader.Recovers write kept) :
    (list reader).Recovers (fun values => .array (values.map write)) (List.map kept) where
  read_write values := mapM_write recovers.read_write values
  write_ne_null _ := Json.noConfusion

end Reader

namespace TextMap

variable {α : Type}

/-- A map is made of its entries. -/
theorem ofList_toList (map : TextMap α) : Std.ExtTreeMap.ofList map.toList = map := by
  refine Std.ExtTreeMap.ext_getElem? fun name => ?_
  cases hentry : map[name]? with
  | none =>
    have habsent : name ∉ map := by
      rw [Std.ExtTreeMap.mem_iff_isSome_getElem?, hentry]
      exact Bool.false_ne_true
    refine Std.ExtTreeMap.getElem?_ofList_of_contains_eq_false ?_
    rw [Std.ExtTreeMap.map_fst_toList_eq_keys, List.contains_eq_mem, decide_eq_false_iff_not]
    exact fun mem => habsent (Std.ExtTreeMap.mem_keys.mp mem)
  | some value =>
    have mem : (name, value) ∈ map.toList :=
      Std.ExtTreeMap.mem_toList_iff_getElem?_eq_some.mpr hentry
    exact Std.ExtTreeMap.getElem?_ofList_of_mem Std.ReflCmp.compare_self
      map.distinct_keys_toList mem

theorem recovers {reader : Reader α} {write : α → Json} (recovers : reader.Recovers write id) :
    (TextMap.read reader).Recovers (TextMap.write write) id where
  read_write map := by
    let writeEntry (entry : String × α) : String × Json := (entry.1, write entry.2)
    let readEntry (entry : String × Json) := (reader entry.2).map (entry.1, ·)
    have hentry : ∀ entry, readEntry (writeEntry entry) = .ok (id entry) := by
      intro entry
      show (reader (write entry.2)).map (entry.1, ·) = .ok entry
      rw [recovers.read_write]
      rfl
    have hentries : Reader.entries reader (TextMap.write write map) = .ok (map.toList.map id) :=
      Reader.mapM_write hentry map.toList
    rw [TextMap.read, hentries, List.map_id, Except.map, ofList_toList, id]
  write_ne_null _ := Json.noConfusion

end TextMap

/-! ## Metadata -/

namespace Timestamp

/-- The point in time is a whole second. -/
def IsWhole (time : Timestamp) : Prop :=
  time.nanosecond = noFraction

theorem wholeSecond_eq_self {time : Timestamp} (whole : time.IsWhole) :
    time.wholeSecond = time := by
  rw [wholeSecond, ← whole]

theorem recovers : Timestamp.read.Recovers (.string ·.render) wholeSecond where
  read_write time := by
    rw [Timestamp.read, parse_render]
  write_ne_null _ := Json.noConfusion

end Timestamp

namespace OwnerReference

theorem recovers : OwnerReference.read.Recovers OwnerReference.write id where
  read_write owner := by
    have written : owner.write.IsRecord _ := ⟨rfl, by simp⟩
    have hrecord : Reader.record "OwnerReference" owner.write = .ok owner.write := rfl
    have texts := written.nullableField?_eq Reader.text_recovers
    have bools := written.nullableField?_eq Reader.bool_recovers
    simp only [read, hrecord, texts "apiVersion" (some owner.apiVersion) rfl,
      bools "blockOwnerDeletion" owner.blockOwnerDeletion rfl,
      bools "controller" owner.controller rfl, texts "kind" (some owner.kind) rfl,
      texts "name" (some owner.name) rfl, texts "uid" (some owner.uid) rfl, Option.map_id, id,
      Option.getD_some, bind, Except.bind, pure, Except.pure]
  write_ne_null _ := Json.noConfusion

end OwnerReference

namespace ManagedFields

/-- The note with a point in time that is a whole second. -/
def wholeSecond (managed : ManagedFields) : ManagedFields :=
  { managed with time := managed.time.map Timestamp.wholeSecond }

@[simp] theorem write_wholeSecond (managed : ManagedFields) :
    managed.wholeSecond.write = managed.write := by
  simp only [write, wholeSecond, Option.map_map, Function.comp_def,
    Timestamp.render_wholeSecond]

/-- The note as it is read back: null names no parts. -/
def reread (managed : ManagedFields) : ManagedFields :=
  { managed.wholeSecond with fields := managed.fields.filter (· ≠ .null) }

theorem reread_eq_wholeSecond {managed : ManagedFields} :
    managed.reread = managed.wholeSecond ↔ managed.fields ≠ some .null := by
  constructor
  · intro heq hnull
    have hfields : managed.fields.filter (· ≠ .null) = managed.fields :=
      congrArg ManagedFields.fields heq
    rw [hnull] at hfields
    cases hfields
  · intro hne
    have hfields : managed.fields.filter (· ≠ .null) = managed.fields := by
      cases hvalue : managed.fields with
      | none => rfl
      | some value =>
        have hvalue_ne : value ≠ .null := fun heq => hne (heq ▸ hvalue)
        simp [hvalue_ne]
    rw [reread, hfields]
    rfl

/-- The parts of an object are found as they were written, unless they are null. -/
theorem read_fields {json : Json} {members : List (String × Option Json)}
    (written : json.IsRecord members) (fields : Option Json)
    (hmember : members.lookup "fieldsV1" = some fields) :
    json.nullableField? "fieldsV1" Reader.anything = .ok (fields.filter (· ≠ .null)) := by
  rw [Json.nullableField?, Json.field?, written.member?_eq, hmember]
  rcases fields with _ | value
  · rfl
  · cases value <;> rfl

theorem recovers : ManagedFields.read.Recovers ManagedFields.write reread where
  read_write managed := by
    have written : managed.write.IsRecord _ := ⟨rfl, by simp⟩
    have hrecord : Reader.record "ManagedFieldsEntry" managed.write = .ok managed.write := rfl
    have texts := written.nullableField?_eq Reader.text_recovers
    have times := written.nullableField?_eq Timestamp.recovers
    simp only [read, hrecord, read_fields written managed.fields rfl,
      texts "apiVersion" managed.apiVersion rfl,
      texts "fieldsType" managed.fieldsType rfl, texts "manager" managed.manager rfl,
      texts "operation" managed.operation rfl, texts "subresource" managed.subresource rfl,
      times "time" managed.time rfl, reread, wholeSecond, Option.map_id, id, bind, Except.bind,
      pure, Except.pure]
  write_ne_null _ := Json.noConfusion

/-- A reader of notes that tells null from what is absent. -/
def readExactly : Reader ManagedFields := fun json =>
  (read json).map ({ · with fields := json.member? "fieldsV1" })

theorem tells : readExactly.Recovers ManagedFields.write wholeSecond where
  read_write managed := by
    have written : managed.write.IsRecord _ := ⟨rfl, by simp⟩
    have hfields : managed.write.member? "fieldsV1" = managed.fields := by
      rw [written.member?_eq]
      exact Option.join_some
    rw [readExactly, recovers.read_write, hfields]
    rfl
  write_ne_null _ := Json.noConfusion

theorem fields_of_read {json : Json} {managed : ManagedFields} (h : read json = .ok managed) :
    managed.fields ≠ some .null := by
  simp only [read, Reader.bind_eq_ok] at h
  obtain ⟨_, -, _, -, _, -, fields, hfields, _, -, _, -, _, -, _, -, hmanaged⟩ := h
  cases hmanaged
  rintro rfl
  obtain ⟨member, hne, hmember⟩ := Reader.of_nullableField? hfields
  exact hne (Except.ok.inj hmember)

end ManagedFields

namespace Metadata

/-- The metadata with points in time that are whole seconds. -/
def wholeSeconds (metadata : Metadata) : Metadata :=
  { metadata with
    creationTimestamp := metadata.creationTimestamp.map Timestamp.wholeSecond
    deletionTimestamp := metadata.deletionTimestamp.map Timestamp.wholeSecond
    managedFields := metadata.managedFields.map (List.map ManagedFields.wholeSecond) }

/-- The metadata as they are read back. -/
def reread (metadata : Metadata) : Metadata :=
  { metadata.wholeSeconds with
    managedFields := metadata.managedFields.map (List.map ManagedFields.reread) }

theorem recovers : Metadata.read.Recovers Metadata.write reread where
  read_write metadata := by
    have written : metadata.write.IsRecord _ := ⟨rfl, by simp⟩
    have hrecord : Reader.record "ObjectMeta" metadata.write = .ok metadata.write := rfl
    have texts := written.nullableField?_eq Reader.text_recovers
    have times := written.nullableField?_eq Timestamp.recovers
    have numbers := written.nullableField?_eq Reader.int64_recovers
    have maps := written.nullableField?_eq (TextMap.recovers Reader.text_recovers)
    have hfinalizers := written.nullableField?_eq (Reader.list_recovers Reader.text_recovers)
      "finalizers" metadata.finalizers rfl
    have hmanaged := written.nullableField?_eq (Reader.list_recovers ManagedFields.recovers)
      "managedFields" metadata.managedFields rfl
    have howners := written.nullableField?_eq (Reader.list_recovers OwnerReference.recovers)
      "ownerReferences" metadata.ownerReferences rfl
    simp only [read, hrecord, hfinalizers, hmanaged, howners,
      maps "annotations" metadata.annotations rfl,
      times "creationTimestamp" metadata.creationTimestamp rfl,
      numbers "deletionGracePeriodSeconds" metadata.deletionGracePeriodSeconds rfl,
      times "deletionTimestamp" metadata.deletionTimestamp rfl,
      texts "generateName" metadata.generateName rfl, numbers "generation" metadata.generation rfl,
      maps "labels" metadata.labels rfl, texts "name" metadata.name rfl,
      texts "namespace" metadata.ns rfl, texts "resourceVersion" metadata.resourceVersion rfl,
      texts "selfLink" metadata.selfLink rfl, texts "uid" metadata.uid rfl, reread, wholeSeconds,
      List.map_id_fun, Option.map_id, id, bind, Except.bind, pure, Except.pure]
  write_ne_null _ := Json.noConfusion

/-- A reader of metadata that tells null from what is absent. -/
def readExactly : Reader Metadata := fun json => do
  let metadata ← read json
  let managedFields ← json.nullableField? "managedFields" (Reader.list ManagedFields.readExactly)
  return { metadata with managedFields }

theorem tells : readExactly.Recovers Metadata.write wholeSeconds where
  read_write metadata := by
    have written : metadata.write.IsRecord _ := ⟨rfl, by simp⟩
    have hmanaged := written.nullableField?_eq (Reader.list_recovers ManagedFields.tells)
      "managedFields" metadata.managedFields rfl
    simp only [readExactly, recovers.read_write, hmanaged, reread, wholeSeconds, bind, Except.bind,
      pure, Except.pure]
  write_ne_null _ := Json.noConfusion

/-- Whether a note of the metadata names its parts by null. -/
def NamesNull (metadata : Metadata) : Prop :=
  ∃ notes ∈ metadata.managedFields, ∃ note ∈ notes, note.fields = some .null

theorem reread_eq_wholeSeconds {metadata : Metadata} :
    metadata.reread = metadata.wholeSeconds ↔ ¬ metadata.NamesNull := by
  have hnotes : metadata.reread = metadata.wholeSeconds ↔
      metadata.managedFields.map (List.map ManagedFields.reread) =
        metadata.managedFields.map (List.map ManagedFields.wholeSecond) :=
    ⟨congrArg Metadata.managedFields, fun heq => by rw [reread, heq]; rfl⟩
  rw [hnotes, NamesNull]
  cases metadata.managedFields with
  | none => simp
  | some notes => simp [List.map_inj_left, ManagedFields.reread_eq_wholeSecond]

/-- What is read as metadata does not name parts by null. -/
theorem not_namesNull_of_read {json : Json} {metadata : Metadata} (h : read json = .ok metadata) :
    ¬ metadata.NamesNull := by
  simp only [read, Reader.bind_eq_ok] at h
  obtain ⟨_, -, _, -, _, -, _, -, _, -, _, -, _, -, _, -, _, -, managed, hmanaged, _, -, _, -, _, -,
    _, -, _, -, _, -, hmetadata⟩ := h
  cases hmetadata
  rintro ⟨notes, rfl, note, mem, hnull⟩
  obtain ⟨member, -, hmember⟩ := Reader.of_nullableField? hmanaged
  obtain ⟨item, hitem⟩ := Reader.of_mem_list hmember note mem
  exact ManagedFields.fields_of_read hitem hnull

/-- Every point in time that the metadata name is a whole second. -/
structure IsWhole (metadata : Metadata) : Prop where
  creation : ∀ time ∈ metadata.creationTimestamp, time.IsWhole
  deletion : ∀ time ∈ metadata.deletionTimestamp, time.IsWhole
  managed : ∀ notes ∈ metadata.managedFields, ∀ note ∈ notes, ∀ time ∈ note.time, time.IsWhole

theorem wholeSeconds_eq_self {metadata : Metadata} (whole : metadata.IsWhole) :
    metadata.wholeSeconds = metadata := by
  have htimes : ∀ time? : Option Timestamp, (∀ time ∈ time?, time.IsWhole) →
      time?.map Timestamp.wholeSecond = time? := by
    intro time? hwhole
    cases time? with
    | none => rfl
    | some time => rw [Option.map_some, Timestamp.wholeSecond_eq_self (hwhole time rfl)]
  have hmanaged : metadata.managedFields.map (List.map ManagedFields.wholeSecond) =
      metadata.managedFields := by
    cases hnotes : metadata.managedFields with
    | none => rfl
    | some notes =>
      have hnote : ∀ note ∈ notes, note.wholeSecond = note := by
        intro note mem
        rw [ManagedFields.wholeSecond, htimes note.time (whole.managed notes hnotes note mem)]
      rw [Option.map_some, List.map_congr_left hnote, List.map_id']
  rw [wholeSeconds, htimes _ whole.creation, htimes _ whole.deletion, hmanaged]

@[simp] theorem write_wholeSeconds (metadata : Metadata) :
    metadata.wholeSeconds.write = metadata.write := by
  simp only [write, wholeSeconds, Option.map_map, List.map_map, Function.comp_def,
    Timestamp.render_wholeSecond, ManagedFields.write_wholeSecond]

end Metadata

/-! ## Sources -/

namespace ArtifactKind

theorem recovers : ArtifactKind.read.Recovers (.string ·.word) id where
  read_write kind := by
    simp only [ArtifactKind.read, read.ofWord, ofWord?_word, id]
  write_ne_null _ := Json.noConfusion

end ArtifactKind

namespace ClusterConfigSpec

theorem recovers : ClusterConfigSpec.read.Recovers ClusterConfigSpec.write id where
  read_write spec := by
    have written : spec.write.IsRecord _ := ⟨rfl, by simp⟩
    have hrecord : Reader.record "struct ClusterConfigSpec" spec.write = .ok spec.write := rfl
    have hkind := written.field?_eq ArtifactKind.recovers "configType" spec.kind rfl
    have hdata := written.field?_eq (TextMap.recovers Reader.text_recovers) "data" spec.data rfl
    have hlist := written.field?_eq Reader.text_recovers "namespaceList" spec.namespaceList rfl
    have htype := written.nullableField?_eq Reader.text_recovers "type" spec.secretType rfl
    unfold read
    split
    · next heq => exact absurd heq Json.noConfusion
    · simp only [hrecord, hkind, hdata, hlist, htype, require, Option.map_id, id,
        Option.getD_some, bind, Except.bind, pure, Except.pure]
  write_ne_null _ := Json.noConfusion

end ClusterConfigSpec

namespace ClusterConfigStatus

theorem recovers : ClusterConfigStatus.read.Recovers ClusterConfigStatus.write id where
  read_write status := by
    have written : status.write.IsRecord
        [("processedNamespace", some (writeTexts status.processed))] := ⟨rfl, by simp⟩
    have hrecord : Reader.record "struct ClusterConfigStatus" status.write = .ok status.write := rfl
    have hprocessed := written.field?_eq (Reader.list_recovers Reader.text_recovers)
      "processedNamespace" status.processed rfl
    unfold read
    split
    · next heq => exact absurd heq Json.noConfusion
    · next heq => exact absurd heq Json.noConfusion
    · next heq => exact absurd heq Json.noConfusion
    · simp only [hrecord, hprocessed, List.map_id_fun, id, Option.getD_some, bind, Except.bind,
        pure, Except.pure]
  write_ne_null _ := Json.noConfusion

end ClusterConfigStatus

namespace ClusterConfig

/-- The source with points in time that are whole seconds. -/
def wholeSeconds (source : ClusterConfig) : ClusterConfig :=
  { source with metadata := source.metadata.wholeSeconds }

/-- The source as it is read back. -/
def reread (source : ClusterConfig) : ClusterConfig :=
  { source with metadata := source.metadata.reread }

theorem recovers : ClusterConfig.read.Recovers ClusterConfig.write reread where
  read_write source := by
    have written : source.write.IsRecord _ := ⟨rfl, by simp⟩
    have hrecord : Reader.record "struct ClusterConfig" source.write = .ok source.write := rfl
    have hmetadata := written.field?_eq Metadata.recovers "metadata" source.metadata rfl
    have hspec := written.field?_eq ClusterConfigSpec.recovers "spec" source.spec rfl
    have hstatus := written.nullableField?_eq ClusterConfigStatus.recovers "status" source.status
      rfl
    unfold read
    split
    · next heq => exact absurd heq Json.noConfusion
    · simp only [hrecord, hmetadata, hspec, hstatus, require, reread, Option.map_id, id,
        bind, Except.bind, pure, Except.pure]
  write_ne_null _ := Json.noConfusion

@[simp] theorem write_wholeSeconds (source : ClusterConfig) :
    source.wholeSeconds.write = source.write := by
  simp only [write, wholeSeconds, Metadata.write_wholeSeconds]

theorem wholeSeconds_eq_self {source : ClusterConfig} (whole : source.metadata.IsWhole) :
    source.wholeSeconds = source := by
  rw [wholeSeconds, Metadata.wholeSeconds_eq_self whole]

theorem reread_eq_wholeSeconds {source : ClusterConfig} :
    source.reread = source.wholeSeconds ↔ ¬ source.metadata.NamesNull := by
  rw [← Metadata.reread_eq_wholeSeconds]
  exact ⟨congrArg ClusterConfig.metadata, fun heq => by rw [reread, heq]; rfl⟩

/-- A reader of sources that tells null from what is absent. -/
def readExactly : Reader ClusterConfig := fun json => do
  let source ← read json
  let metadata ← json.field? "metadata" Metadata.readExactly
  return { source with metadata := metadata.getD source.metadata }

theorem tells : readExactly.Recovers ClusterConfig.write wholeSeconds where
  read_write source := by
    have written : source.write.IsRecord _ := ⟨rfl, by simp⟩
    have hmetadata := written.field?_eq Metadata.tells "metadata" source.metadata rfl
    simp only [readExactly, recovers.read_write, hmetadata, reread, wholeSeconds, Option.getD_some,
      bind, Except.bind, pure, Except.pure]
  write_ne_null _ := Json.noConfusion

/-- What is read as a source does not name parts by null. -/
theorem not_namesNull_of_read {json : Json} {source : ClusterConfig} (h : read json = .ok source) :
    ¬ source.metadata.NamesNull := by
  unfold read at h
  split at h
  · -- The list of the parts of a source has its metadata first.
    next parts =>
    rcases parts with _ | ⟨metadata, _ | ⟨spec, _ | ⟨status, rest⟩⟩⟩
    · cases h
    · obtain ⟨_, -, h⟩ := Reader.bind_eq_ok.mp h
      cases h
    · obtain ⟨_, -, h⟩ := Reader.bind_eq_ok.mp h
      obtain ⟨_, -, h⟩ := Reader.bind_eq_ok.mp h
      cases h
    · obtain ⟨_, hmetadata, h⟩ := Reader.bind_eq_ok.mp h
      obtain ⟨_, -, h⟩ := Reader.bind_eq_ok.mp h
      obtain ⟨_, -, h⟩ := Reader.bind_eq_ok.mp h
      split at h
      · cases h
        exact Metadata.not_namesNull_of_read hmetadata
      · cases h
  · simp only [Reader.bind_eq_ok] at h
    obtain ⟨_, -, metadata?, hfield, _, -, _, -, metadata, hrequired, _, -, hsource⟩ := h
    cases hsource
    cases metadata? with
    | none => cases hrequired
    | some found =>
      cases hrequired
      obtain ⟨member, hmetadata⟩ := Reader.of_field? hfield
      exact Metadata.not_namesNull_of_read hmetadata

end ClusterConfig

/-- A source on whole seconds is read back as it was written, unless it names parts of itself by
null, which is read as naming none. Whatever was read is read back apart from the fractions of a
second, and from then on it stays as it is: what is written of it again is what was written first.
Two sources are written alike only if they differ in nothing but such fractions. -/
theorem written_sources_are_read_back :
    (∀ source : ClusterConfig, source.metadata.IsWhole →
      (ClusterConfig.read source.write = .ok source ↔ ¬ source.metadata.NamesNull)) ∧
    (∀ source : ClusterConfig, ClusterConfig.read source.write = .ok source.reread) ∧
    (∀ (json : Json) (source : ClusterConfig), ClusterConfig.read json = .ok source →
      ∃ again, ClusterConfig.read source.write = .ok again ∧ again = source.wholeSeconds ∧
        again.write = source.write) ∧
    ∀ source other : ClusterConfig,
      source.write = other.write ↔ source.wholeSeconds = other.wholeSeconds := by
  have hread := ClusterConfig.recovers.read_write
  refine ⟨fun source whole => ?_, hread, fun json source hjson => ?_, fun source other => ⟨?_, ?_⟩⟩
  · rw [hread, Except.ok.injEq, ← ClusterConfig.reread_eq_wholeSeconds,
      ClusterConfig.wholeSeconds_eq_self whole]
  · have hnull := ClusterConfig.not_namesNull_of_read hjson
    refine ⟨source.wholeSeconds, ?_, rfl, source.write_wholeSeconds⟩
    rw [hread, ClusterConfig.reread_eq_wholeSeconds.mpr hnull]
  · exact ClusterConfig.tells.kept_eq
  · intro heq
    rw [← source.write_wholeSeconds, heq, other.write_wholeSeconds]

/-- A source that was last written by someone who names its parts by null. -/
def ClusterConfig.noted : ClusterConfig where
  metadata := { name := some "app-config", managedFields := some [{ fields := some .null }] }
  spec := { kind := .configMap }

/-- It has no point in time, and yet it is read back as another source. -/
theorem a_note_that_names_null_is_not_read_back :
    ClusterConfig.noted.metadata.IsWhole ∧
      ClusterConfig.read ClusterConfig.noted.write ≠ .ok .noted := by
  have hread := ClusterConfig.recovers.read_write .noted
  have hother : ClusterConfig.noted.reread ≠ .noted := by decide +kernel
  have hwhole : ClusterConfig.noted.metadata.IsWhole := by
    constructor <;> simp [ClusterConfig.noted]
  exact ⟨hwhole, fun hsame => hother (Except.ok.inj (hread.symm.trans hsame))⟩

/-- A source as it may be given: a clock behind UTC shows a fraction of a second, and parts are
missing, null or empty. -/
def ClusterConfig.given : Json :=
  .object
    [("metadata", .object
      [("annotations", .null), ("creationTimestamp", .string "2023-12-31T22:00:00.25-02:00"),
       ("finalizers", .array []), ("labels", .object []), ("name", .string "app-config")]),
     ("spec", .object [("configType", .string "secrets"), ("type", .string "")]),
     ("status", .object [])]

/-- What it is read as. -/
def ClusterConfig.taken : ClusterConfig where
  metadata :=
    { creationTimestamp := some
        { Simulation.endOfSources with nanosecond := ⟨250000000, by decide⟩ }
      finalizers := some []
      labels := some ∅
      name := some "app-config" }
  spec := { kind := .secret, secretType := some "" }
  status := some {}

/-- Its fraction of a second is gone when it is read back, and nothing else is. -/
theorem a_given_source_is_read_back :
    ClusterConfig.read ClusterConfig.given = .ok .taken ∧
      ClusterConfig.read ClusterConfig.taken.write = .ok ClusterConfig.taken.wholeSeconds ∧
      ClusterConfig.taken.wholeSeconds ≠ .taken ∧
      ClusterConfig.read ClusterConfig.taken.wholeSeconds.write =
        .ok ClusterConfig.taken.wholeSeconds := by
  have hgiven : ClusterConfig.read ClusterConfig.given = .ok .taken := rfl
  have hwhole : ClusterConfig.taken.wholeSeconds.metadata.IsWhole :=
    ⟨fun _ mem => Option.some.inj mem ▸ rfl, fun _ mem => (Option.not_mem_none _ mem).elim,
      fun _ mem => (Option.not_mem_none _ mem).elim⟩
  have hplain : ¬ ClusterConfig.taken.wholeSeconds.metadata.NamesNull := by
    rintro ⟨_, mem, -⟩
    cases mem
  obtain ⟨hback, -, hagain, -⟩ := written_sources_are_read_back
  obtain ⟨again, hread, rfl, -⟩ := hagain _ _ hgiven
  exact ⟨hgiven, hread, by decide +kernel, (hback _ hwhole).mpr hplain⟩

end ConfigFanout
