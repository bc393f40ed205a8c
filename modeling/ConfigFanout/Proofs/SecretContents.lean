import ConfigFanout.Artifact.Sync
import ConfigFanout.Artifact.Wire
import ConfigFanout.Cluster.Simulation
import ConfigFanout.Proofs.Rereading
import ConfigFanout.Proofs.Traces

-- What a Secret holds is what its source says. The bytes that are stored are those that are read
-- back, they stand for the texts of the source, and texts that differ are never the same bytes.
-- So a Secret is written again when a text has changed, and only then.
namespace ConfigFanout

/-! ## Artifacts in JSON -/

namespace Text

theorem bytes_recovers : readBytes.Recovers writeBytes id where
  read_write bytes := by
    rw [writeBytes, readBytes, String.toList_ofList, Base64.decode?_encode, id]
  write_ne_null _ := Json.noConfusion

end Text

/-- A word that was written is the one that has to stand there. -/
theorem Json.IsRecord.readFixed_eq {json : Json} {members : List (String × Option Json)}
    (written : json.IsRecord members) (name word : String)
    (hmember : members.lookup name = some (some (.string word))) :
    readFixed json name word = .ok () := by
  rw [readFixed, Json.field?, written.member?_eq, hmember]
  simp [Reader.word, Reader.text, discard, bind, Except.bind, pure, Except.pure, Functor.mapConst,
    Except.map]

namespace ArtifactKind

theorem values_recover (kind : ArtifactKind) :
    kind.readValue.Recovers kind.writeValue id :=
  match kind with
  | .configMap => Reader.text_recovers
  | .secret => Text.bytes_recovers

end ArtifactKind

namespace Artifact

variable {kind : ArtifactKind}

/-- The artifact as it is read back. -/
def reread (artifact : Artifact kind) : Artifact kind :=
  { artifact with metadata := artifact.metadata.reread }

theorem read_write_configMap (artifact : Artifact .configMap) :
    readConfigMap (writeConfigMap artifact) = .ok artifact.reread := by
  have written : (writeConfigMap artifact).IsRecord _ := ⟨rfl, by simp⟩
  have hrecord : Reader.record ArtifactKind.configMap.name (writeConfigMap artifact) =
      .ok (writeConfigMap artifact) := rfl
  have hbinary := written.nullableField?_eq (TextMap.recovers Text.bytes_recovers) "binaryData"
    artifact.parts.binaryData rfl
  have hdata := written.nullableField?_eq (TextMap.recovers (ArtifactKind.values_recover _)) "data"
    artifact.data rfl
  have himmutable := written.nullableField?_eq Reader.bool_recovers "immutable" artifact.immutable
    rfl
  have hmetadata := written.nullableField?_eq Metadata.recovers "metadata"
    (some artifact.metadata) rfl
  simp only [readConfigMap, hrecord, written.readFixed_eq "apiVersion" _ rfl, hbinary, hdata,
    himmutable, written.readFixed_eq "kind" _ rfl, hmetadata, reread, Option.map_id, id,
    Option.map_some, Option.getD_some, bind, Except.bind, pure, Except.pure]

theorem read_write_secret (artifact : Artifact .secret) :
    readSecret (writeSecret artifact) = .ok artifact.reread := by
  have written : (writeSecret artifact).IsRecord _ := ⟨rfl, by simp⟩
  have hrecord : Reader.record ArtifactKind.secret.name (writeSecret artifact) =
      .ok (writeSecret artifact) := rfl
  have hdata := written.nullableField?_eq (TextMap.recovers (ArtifactKind.values_recover _)) "data"
    artifact.data rfl
  have himmutable := written.nullableField?_eq Reader.bool_recovers "immutable" artifact.immutable
    rfl
  have hmetadata := written.nullableField?_eq Metadata.recovers "metadata"
    (some artifact.metadata) rfl
  have hstrings := written.nullableField?_eq (TextMap.recovers Reader.text_recovers) "stringData"
    artifact.parts.stringData rfl
  have htype := written.nullableField?_eq Reader.text_recovers "type" artifact.parts.secretType rfl
  simp only [readSecret, hrecord, written.readFixed_eq "apiVersion" _ rfl, hdata, himmutable,
    written.readFixed_eq "kind" _ rfl, hmetadata, hstrings, htype, reread, Option.map_id, id,
    Option.map_some, Option.getD_some, bind, Except.bind, pure, Except.pure]

theorem recovers (kind : ArtifactKind) : (read kind).Recovers write reread where
  read_write artifact :=
    match kind, artifact with
    | .configMap, artifact => read_write_configMap artifact
    | .secret, artifact => read_write_secret artifact
  write_ne_null artifact :=
    match kind, artifact with
    | .configMap, _ | .secret, _ => Json.noConfusion

end Artifact

/-! ## Texts and bytes -/

/-- Maps are told apart by what is made of their entries if entries are. -/
theorem TextMap.map_injective {α β : Type} {f : α → β} (hf : Function.Injective f) :
    Function.Injective fun map : TextMap α => map.map fun _ => f := by
  intro map other heq
  refine Std.ExtTreeMap.ext_getElem? fun name => Option.map_injective hf ?_
  have hentry : (map.map fun _ => f)[name]? = (other.map fun _ => f)[name]? :=
    congrArg (·[name]?) heq
  rwa [Std.ExtTreeMap.getElem?_map, Std.ExtTreeMap.getElem?_map] at hentry

namespace ArtifactKind

theorem value_injective (kind : ArtifactKind) : Function.Injective kind.value :=
  match kind with
  | .configMap => fun _ _ h => h
  | .secret => fun _ _ h => Text.utf8_injective h

/-- Sources with the same payload have the same data. -/
theorem payload_eq_iff (kind : ArtifactKind) (source other : ClusterConfig) :
    kind.payload source = kind.payload other ↔ source.spec.data = other.spec.data :=
  (TextMap.map_injective kind.value_injective).eq_iff

end ArtifactKind

/-- The text whose UTF-8 form a base64 text stands for. -/
def Json.plainText? : Json → Option String
  | .string text => (Text.Base64.decode? text.toList).bind Text.ofUtf8?
  | _ => none

@[simp] theorem Json.plainText?_writeBytes (text : String) :
    plainText? (Text.writeBytes (Text.utf8 text)) = some text := by
  rw [Text.writeBytes, plainText?, String.toList_ofList, Text.Base64.decode?_encode,
    Option.bind_some, Text.ofUtf8?_utf8]

namespace Artifact

/-- The entries of a written Secret, taken out of UTF-8 and base64, are the data of its source. -/
theorem data_write_build (metadata : Metadata) (source : ClusterConfig) :
    ∃ members,
      (build metadata (ArtifactKind.secret.payload source) source).write.member? "data" =
        some (.object members) ∧
      members.map (fun (name, value) => (name, value.plainText?)) =
        source.spec.data.toList.map fun (name, text) => (name, some text) := by
  refine ⟨_, rfl, ?_⟩
  rw [ArtifactKind.payload, Std.ExtTreeMap.toList_map, List.map_map, List.map_map]
  refine List.map_congr_left fun entry _ => ?_
  exact congrArg (Prod.mk entry.1) (Json.plainText?_writeBytes entry.2)

end Artifact

/-! ## Keeping a copy up to date -/

section

variable {σ : Type} {kind : ArtifactKind} {store : Store σ} {state after : σ}
variable {source : ClusterConfig} {stored : Artifact kind} {name ns : String}

theorem Program.calls_discard_ask {α : Type} (store : Store σ) (state : σ) (request : StoreCall)
    (value : α) :
    ((do discard (ask request); return value : Program α).acts store state).filterMap Act.call? =
      [request] := by
  obtain ⟨answer, after, hanswer⟩ :
      ∃ answer after, store.answer request state = (answer, after) := ⟨_, _, rfl⟩
  show (acts store (.call request fun answer =>
    ((done answer).bind fun _ => pure ()).bind fun _ => pure value) state).filterMap Act.call? = _
  rw [acts, hanswer]
  cases answer <;> rfl

/-- A copy with the labels of the source is replaced if its payload is another one, and nothing
else is done. -/
theorem ClusterConfig.calls_synchronize (named : source.metadata.name = some name)
    (found : store.answer (.getArtifact kind ⟨ns, name⟩) state = (.ok stored, after))
    (labelled : stored.owner? = some source.metadata.key) :
    ((source.synchronize kind ns).acts store state).filterMap Act.call? =
      .getArtifact kind ⟨ns, name⟩ ::
        if stored.payload = kind.payload source then []
        else [.replaceArtifact kind (stored.withPayload (kind.payload source))] := by
  have hname : source.requireName = .ok name := by rw [requireName, named]
  have hother : stored.otherOwner? source = none := by
    rw [Artifact.otherOwner?, labelled]
    simp
  -- The copy that is found is no other source's, so it is either fine or replaced.
  unfold synchronize
  rw [hname, Program.ofExcept_ok, pure_bind]
  show (Program.acts store (.call (.getArtifact kind ⟨ns, name⟩) _) state).filterMap _ = _
  rw [Program.acts, found]
  by_cases same : stored.payload = kind.payload source
  · have hrevise : source.revise stored = none := by
      rw [revise, labelled, if_neg (by simp), if_pos same]
    simp only [Program.attempt, bind, Program.bind, hother, hrevise, if_pos same]
    rfl
  · have hrevise : source.revise stored = some (stored.withPayload (kind.payload source)) := by
      rw [revise, labelled, if_neg (by simp), if_neg same]
    simp only [Program.attempt, bind, Program.bind, hother, hrevise, if_neg same]
    exact congrArg _ (Program.calls_discard_ask store after _ Synced.updated)

end

/-- The Secret of a source is read back with the payload that was written, and every entry that
was written is base64 for the UTF-8 form of a text of the source. Secrets carry the same bytes
only for the same texts: where the Secret of a source is stored, another source that its labels
name replaces it if their data differ, and otherwise leaves it as it is. -/
theorem secrets_carry_the_texts_of_their_source {σ : Type} (store : Store σ) (metadata : Metadata)
    (source : ClusterConfig) :
    (∃ again : Artifact .secret, Artifact.read .secret
        (Artifact.build metadata (ArtifactKind.secret.payload source) source).write = .ok again ∧
      again.payload = ArtifactKind.secret.payload source) ∧
    (∃ members, (Artifact.build metadata (ArtifactKind.secret.payload source)
        source).write.member? "data" = some (.object members) ∧
      members.map (fun (name, value) => (name, value.plainText?)) =
        source.spec.data.toList.map fun (name, text) => (name, some text)) ∧
    ∀ other : ClusterConfig,
      (ArtifactKind.secret.payload source = ArtifactKind.secret.payload other ↔
        source.spec.data = other.spec.data) ∧
      ∀ (stored : Artifact .secret) (state after : σ) (name ns : String),
        Artifact.read .secret
          (Artifact.build metadata (ArtifactKind.secret.payload source) source).write =
            .ok stored →
        stored.owner? = some other.metadata.key → other.metadata.name = some name →
        store.answer (.getArtifact .secret ⟨ns, name⟩) state = (.ok stored, after) →
        ((other.synchronize .secret ns).acts store state).filterMap Act.call? =
          .getArtifact .secret ⟨ns, name⟩ ::
            if source.spec.data = other.spec.data then []
            else [.replaceArtifact .secret
              (stored.withPayload (ArtifactKind.secret.payload other))] := by
  have hread := (Artifact.recovers .secret).read_write
    (Artifact.build metadata (ArtifactKind.secret.payload source) source)
  have hpayload := ArtifactKind.secret.payload_eq_iff source
  refine ⟨⟨_, hread, rfl⟩, Artifact.data_write_build metadata source, fun other =>
    ⟨hpayload other, fun stored state after name ns reads labelled named found => ?_⟩⟩
  obtain rfl := Except.ok.inj (hread.symm.trans reads)
  rw [ClusterConfig.calls_synchronize named found labelled]
  exact congrArg _ (ite_congr (propext (hpayload other)) (fun _ => rfl) fun _ => rfl)

/-- A source with a text in its data. -/
def ClusterConfig.telling (text : String) : ClusterConfig where
  metadata := { name := some "app-config", ns := some "default" }
  spec := { namespaceList := "a", kind := .secret, data := {("greeting", text)} }

/-- The Secret of such a source as it was stored first. -/
def Artifact.told (text : String) : Artifact .secret :=
  .build ((Artifact.newMetadata (.telling text) "app-config" "a").atVersion 1)
    (ArtifactKind.secret.payload (.telling text)) (.telling text)

/-- A cluster with that Secret. -/
def Simulation.told (text : String) : Simulation where
  cluster := { namespaces := ["a"], secrets := {(⟨"a", "app-config"⟩, .told text)}, version := 1 }

/-- The Secret is written again when the text is another one, and only then. -/
theorem a_told_text_is_written_again_when_it_changes :
    (((ClusterConfig.telling "grüße").synchronize .secret "a").acts Simulation.store
        (.told "grüße")).filterMap Act.call? = [.getArtifact .secret ⟨"a", "app-config"⟩] ∧
      (((ClusterConfig.telling "grüezi").synchronize .secret "a").acts Simulation.store
        (.told "grüße")).filterMap Act.call? =
          [.getArtifact .secret ⟨"a", "app-config"⟩,
            .replaceArtifact .secret ((Artifact.told "grüße").withPayload
              (ArtifactKind.secret.payload (.telling "grüezi")))] := by
  obtain ⟨-, -, hother⟩ := secrets_carry_the_texts_of_their_source Simulation.store
    ((Artifact.newMetadata (.telling "grüße") "app-config" "a").atVersion 1) (.telling "grüße")
  have hread : Artifact.read .secret (Artifact.told "grüße").write = .ok (.told "grüße") :=
    (Artifact.recovers .secret).read_write _
  constructor
  · have hcalls := (hother (.telling "grüße")).2 (.told "grüße") (.told "grüße") _ "app-config" "a"
      hread (by decide +kernel) rfl rfl
    rwa [if_pos rfl] at hcalls
  · have hcalls := (hother (.telling "grüezi")).2 (.told "grüße") (.told "grüße") _ "app-config" "a"
      hread (by decide +kernel) rfl rfl
    rwa [if_neg (by decide +kernel)] at hcalls

end ConfigFanout
