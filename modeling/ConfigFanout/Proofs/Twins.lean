import ConfigFanout.Proofs.Likeness

-- Versions do not matter to a round. Two programs are twins if they make the same calls, up to
-- the versions of the objects in them, as long as the calls are answered alike, up to versions
-- again. A round is a twin of itself: it passes versions on and never looks at them.
namespace ConfigFanout

/-! ## Objects of other versions -/

/-- The source at some version, or at none. -/
def ClusterConfig.withVersion (source : ClusterConfig) (version : Option String) :
    ClusterConfig :=
  { source with metadata := { source.metadata with resourceVersion := version } }

/-- The artifact at some version, or at none. -/
def Artifact.withVersion {kind : ArtifactKind} (artifact : Artifact kind)
    (version : Option String) : Artifact kind :=
  { artifact with metadata := { artifact.metadata with resourceVersion := version } }

/-- Two sources differ at most in their versions. -/
def ClusterConfig.Twin (source twin : ClusterConfig) : Prop :=
  ∃ version, twin = source.withVersion version

/-- Two artifacts differ at most in their versions. -/
def Artifact.Twin {kind : ArtifactKind} (artifact twin : Artifact kind) : Prop :=
  ∃ version, twin = artifact.withVersion version

theorem ClusterConfig.Twin.refl (source : ClusterConfig) : source.Twin source :=
  ⟨source.metadata.resourceVersion, rfl⟩

/-- What is made of an artifact keeps its version, and does not depend on versions. -/
theorem ClusterConfig.revise_withVersion {kind : ArtifactKind} (source : ClusterConfig)
    (artifact : Artifact kind) (version other : Option String) :
    (source.withVersion version).revise (artifact.withVersion other) =
      (source.revise artifact).map (·.withVersion other) := by
  unfold revise
  have howner : (artifact.withVersion other).owner? = artifact.owner? := rfl
  have hpayload : (artifact.withVersion other).payload = artifact.payload := rfl
  have hasked : kind.payload (source.withVersion version) = kind.payload source := rfl
  rw [howner, hpayload, hasked]
  dsimp only
  split
  · rfl
  · split <;> rfl

/-! ## Calls and answers alike -/

/-- Two calls differ at most in the versions of what they write. -/
inductive StoreCall.Twin : StoreCall → StoreCall → Prop
  | getSource (key : ObjectKey) : Twin (.getSource key) (.getSource key)
  | updateSource {source twin : ClusterConfig} : source.Twin twin →
    Twin (.updateSource source) (.updateSource twin)
  | updateStatus {source twin : ClusterConfig} : source.Twin twin →
    Twin (.updateStatus source) (.updateStatus twin)
  | listNamespaces : Twin .listNamespaces .listNamespaces
  | getArtifact (kind : ArtifactKind) (place : ObjectKey) :
    Twin (.getArtifact kind place) (.getArtifact kind place)
  | createArtifact (kind : ArtifactKind) (artifact : Artifact kind) :
    Twin (.createArtifact kind artifact) (.createArtifact kind artifact)
  | replaceArtifact {kind : ArtifactKind} {artifact twin : Artifact kind} : artifact.Twin twin →
    Twin (.replaceArtifact kind artifact) (.replaceArtifact kind twin)
  | deleteArtifact (kind : ArtifactKind) (place : ObjectKey) :
    Twin (.deleteArtifact kind place) (.deleteArtifact kind place)

/-- Two calls are answered alike: what they give differs at most in versions. A source that is
looked up is the very same. -/
inductive StoreCall.Agree : (call twin : StoreCall) →
    Except Error call.Answer → Except Error twin.Answer → Prop
  | failed {call twin : StoreCall} (error : Error) : Agree call twin (.error error) (.error error)
  | fetched {key : ObjectKey} (source : ClusterConfig) :
    Agree (.getSource key) (.getSource key) (.ok source) (.ok source)
  | updated {source twin answer other : ClusterConfig} : answer.Twin other →
    Agree (.updateSource source) (.updateSource twin) (.ok answer) (.ok other)
  | recorded {source twin answer other : ClusterConfig} : answer.Twin other →
    Agree (.updateStatus source) (.updateStatus twin) (.ok answer) (.ok other)
  | listed (live : List String) : Agree .listNamespaces .listNamespaces (.ok live) (.ok live)
  | found {kind : ArtifactKind} {place : ObjectKey} {artifact twin : Artifact kind} :
    artifact.Twin twin →
    Agree (.getArtifact kind place) (.getArtifact kind place) (.ok artifact) (.ok twin)
  | created {kind : ArtifactKind} {artifact answer twin : Artifact kind} :
    Agree (.createArtifact kind artifact) (.createArtifact kind artifact) (.ok answer) (.ok twin)
  | replaced {kind : ArtifactKind} {artifact other answer twin : Artifact kind} :
    Agree (.replaceArtifact kind artifact) (.replaceArtifact kind other) (.ok answer) (.ok twin)
  | deleted {kind : ArtifactKind} {place : ObjectKey} :
    Agree (.deleteArtifact kind place) (.deleteArtifact kind place) (.ok ()) (.ok ())

namespace Program

variable {α β : Type}

/-- Two programs make calls alike, publish the same events and end alike, with values as `ends`
says or with the same error, as long as their calls are answered alike. -/
inductive Twins (ends : α → β → Prop) : Program α → Program β → Prop
  | done {value : α} {twin : β} : ends value twin →
    Twins ends (.done (.ok value)) (.done (.ok twin))
  | failed (error : Error) : Twins ends (.done (.error error)) (.done (.error error))
  | publish (event : Event) {program : Program α} {twin : Program β} : Twins ends program twin →
    Twins ends (.publish event program) (.publish event twin)
  | call {request twin : StoreCall} {next : Except Error request.Answer → Program α}
      {nextTwin : Except Error twin.Answer → Program β} : request.Twin twin →
    (∀ answer other, request.Agree twin answer other → Twins ends (next answer) (nextTwin other)) →
    Twins ends (.call request next) (.call twin nextTwin)

end Program

/-! ## Whole rounds -/

/-- To be alike but for versions. -/
def Likeness.versions : Likeness where
  calls := StoreCall.Twin
  answers := StoreCall.Agree
  events := Eq
  errors := Eq

/-- Programs that are alike but for versions are twins. -/
theorem Program.Alike.twins {α β : Type} {ends : α → β → Prop} {program : Program α}
    {twin : Program β} (h : Alike .versions ends program twin) : Twins ends program twin := by
  induction h with
  | done hresult =>
    cases hresult with
    | ok hends => exact .done hends
    | error herror =>
      cases herror
      exact .failed _
  | publish hevent _ ih =>
    cases hevent
    exact .publish _ ih
  | call hcall _ ih => exact .call hcall ih

/-- Two artifacts of one kind differ at most in their versions. -/
inductive Artifact.Twins : {kind other : ArtifactKind} → Artifact kind → Artifact other → Prop
  | intro {kind : ArtifactKind} {artifact twin : Artifact kind} : artifact.Twin twin →
    Twins artifact twin

open Program

theorem write_alike {request twin : StoreCall} (h : request.Twin twin) :
    Alike .versions (fun _ _ => True) (ask request) (ask twin) := by
  refine .call h fun answer other hagree => ?_
  cases hagree with
  | failed error => exact .fail rfl
  | _ => exact .pure trivial

/-- A round passes versions on and never looks at them. -/
theorem Likeness.versions_carry : Likeness.versions.Carries ClusterConfig.Twin Artifact.Twins where
  name_eq := by
    rintro source _ ⟨version, rfl⟩
    rfl
  held_eq := by
    rintro source _ ⟨version, rfl⟩
    rfl
  list_eq := by
    rintro source _ ⟨version, rfl⟩
    rfl
  status_eq := by
    rintro source _ ⟨version, rfl⟩
    rfl
  deleting_eq := by
    rintro source _ ⟨version, rfl⟩
    rfl
  missing_eq := fun herror => herror ▸ rfl
  unnamed := rfl
  foreign := by
    rintro source _ ⟨version, rfl⟩ place owner
    rfl
  owner_eq := by
    rintro source _ copy _ ⟨version, rfl⟩ ⟨seen, rfl⟩
    rfl
  revise := by
    rintro source _ copy _ ⟨version, rfl⟩ ⟨seen, rfl⟩
    have hrevise := source.revise_withVersion copy version seen
    cases hrevised : source.revise copy with
    | none =>
      rw [hrevised] at hrevise
      exact hrevise ▸ .none
    | some revised =>
      rw [hrevised] at hrevise
      exact hrevise ▸ .some ⟨seen, rfl⟩
  list := by
    refine .call .listNamespaces fun answer other hagree => ?_
    cases hagree with
    | failed error => exact .fail rfl
    | listed live => exact .pure rfl
  update := by
    rintro source _ ⟨version, rfl⟩ finalizers
    refine .call (.updateSource ⟨version, rfl⟩) fun answer other hagree => ?_
    cases hagree with
    | failed error => exact .fail rfl
    | updated hanswer => exact .pure hanswer
  record := by
    rintro source _ ⟨version, rfl⟩ status
    refine .call (.updateStatus ⟨version, rfl⟩) fun answer other hagree => ?_
    cases hagree with
    | failed error => exact .fail rfl
    | recorded hanswer => exact .pure hanswer
  look := by
    rintro source _ ⟨version, rfl⟩ place
    refine .call (.getArtifact source.spec.kind place) fun answer other hagree => ?_
    cases hagree with
    | failed error => exact .fail rfl
    | found htwin => exact .pure ⟨htwin⟩
  create := by
    rintro source _ ⟨version, rfl⟩ name ns
    exact write_alike (.createArtifact source.spec.kind _)
  replace := by
    rintro source _ copy other ⟨version, rfl⟩ ⟨htwin⟩
    exact write_alike (.replaceArtifact htwin)
  take := by
    rintro source _ ⟨version, rfl⟩ place
    refine .call (.deleteArtifact source.spec.kind place) fun answer other hagree => ?_
    cases hagree with
    | failed error => exact .fail rfl
    | deleted => exact .pure rfl

/-- A round makes the same calls, up to versions, and publishes the same events whatever versions
it is given. -/
theorem reconcile_twins (key : ObjectKey) : Twins Eq (reconcile key) (reconcile key) := by
  have hfetch : Alike .versions Eq (ask (.getSource key)) (ask (.getSource key)) := by
    refine .call (.getSource key) fun answer other hagree => ?_
    cases hagree with
    | failed error => exact .fail rfl
    | fetched source => exact .pure rfl
  refine (Likeness.versions_carry.reconcile key hfetch ?_ ?_ ?_).twins
  · rintro source _ rfl
    exact .refl source
  · rintro source _ rfl note
    rfl
  · rintro source _ rfl error _ rfl
    rfl

end ConfigFanout
