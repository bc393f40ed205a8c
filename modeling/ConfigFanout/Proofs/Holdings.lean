import ConfigFanout.Reconcile
import ConfigFanout.Proofs.Lookups

-- What a source holds in a cluster: its tokens, its record of namespaces and its copies.
-- A round changes nothing else, so each part of a round is described by what it does to
-- the holdings of the source.
namespace ConfigFanout

/-! ## Parts that do not matter -/

/-- The source without the parts that rounds write. -/
def ClusterConfig.bare (source : ClusterConfig) : ClusterConfig :=
  { source with
    metadata := { source.metadata with finalizers := none, resourceVersion := none }
    status := none }

/-- The artifact without its version. -/
def Artifact.sansVersion {kind : ArtifactKind} (artifact : Artifact kind) : Artifact kind :=
  { artifact with metadata := { artifact.metadata with resourceVersion := none } }

namespace ClusterConfig

variable {source base : ClusterConfig}

theorem spec_of_alike (h : source.bare = base.bare) : source.spec = base.spec :=
  (congrArg spec h : source.bare.spec = base.bare.spec)

theorem kind_of_alike (h : source.bare = base.bare) : source.spec.kind = base.spec.kind :=
  congrArg (·.kind) (spec_of_alike h)

theorem key_of_alike (h : source.bare = base.bare) :
    source.metadata.key = base.metadata.key :=
  (congrArg (·.metadata.key) h : source.bare.metadata.key = base.bare.metadata.key)

theorem name_of_alike (h : source.bare = base.bare) :
    source.metadata.name = base.metadata.name :=
  (congrArg (·.metadata.name) h : source.bare.metadata.name = base.bare.metadata.name)

theorem deleting_of_alike (h : source.bare = base.bare) :
    source.isDeleting = base.isDeleting :=
  (congrArg isDeleting h : source.bare.isDeleting = base.bare.isDeleting)

/-- Whether the source has a name of its own, which copies take. -/
def Named (source : ClusterConfig) : Prop :=
  ∃ name, source.requireName = .ok name

theorem anyName_of_requireName {name : String} (h : base.requireName = .ok name) :
    base.metadata.anyName = name := by
  unfold requireName at h
  split at h
  · next hname =>
    cases h
    simp [Metadata.anyName, hname]
  · cases h

theorem requireName_of_alike (h : source.bare = base.bare) :
    source.requireName = base.requireName := by
  unfold requireName
  rw [name_of_alike h]

theorem named_of_alike (h : source.bare = base.bare) : source.Named ↔ base.Named := by
  unfold Named
  rw [requireName_of_alike h]

theorem anyName_of_alike (h : source.bare = base.bare) :
    source.metadata.anyName = base.metadata.anyName :=
  congrArg ObjectKey.name (key_of_alike h)

theorem payload_of_alike (kind : ArtifactKind) (h : source.bare = base.bare) :
    kind.payload source = kind.payload base := by
  unfold ArtifactKind.payload
  rw [spec_of_alike h]

theorem ownerLabels_of_alike (h : source.bare = base.bare) (labels : TextMap String) :
    Artifact.ownerLabels source labels = Artifact.ownerLabels base labels := by
  unfold Artifact.ownerLabels
  rw [key_of_alike h]

theorem revise_of_alike {kind : ArtifactKind} (h : source.bare = base.bare)
    (artifact : Artifact kind) : source.revise artifact = base.revise artifact := by
  unfold revise Artifact.adopt
  rw [payload_of_alike kind h, ownerLabels_of_alike h]

/-- The artifact that a source is copied into where there is none. -/
def newCopy (source : ClusterConfig) (kind : ArtifactKind) (name ns : String) : Artifact kind :=
  Artifact.build (Artifact.newMetadata source name ns) (kind.payload source) source

theorem newCopy_of_alike (h : source.bare = base.bare) (kind : ArtifactKind)
    (name ns : String) : source.newCopy kind name ns = base.newCopy kind name ns := by
  unfold newCopy Artifact.newMetadata Artifact.build ArtifactKind.newParts
  rw [payload_of_alike kind h, ownerLabels_of_alike h, spec_of_alike h]

end ClusterConfig

namespace Artifact

variable {kind : ArtifactKind} (artifact : Artifact kind)

@[simp] theorem owner?_sansVersion : artifact.sansVersion.owner? = artifact.owner? := rfl

@[simp] theorem payload_sansVersion : artifact.sansVersion.payload = artifact.payload := rfl

@[simp] theorem otherOwner?_sansVersion (source : ClusterConfig) :
    artifact.sansVersion.otherOwner? source = artifact.otherOwner? source := rfl

theorem otherOwner?_of_alike {source base : ClusterConfig} (h : source.bare = base.bare) :
    artifact.otherOwner? source = artifact.otherOwner? base := by
  unfold otherOwner?
  rw [ClusterConfig.key_of_alike h]

/-- An artifact belongs to no other source if its labels name this one or none. -/
theorem otherOwner?_eq_none {source : ClusterConfig} :
    artifact.otherOwner? source = none ↔
      artifact.owner? = none ∨ artifact.owner? = some source.metadata.key := by
  unfold otherOwner?
  cases artifact.owner? <;> simp

/-- An artifact that is left because it belongs to another source does not name this one. -/
theorem owner?_of_filter_foreign {source : ClusterConfig} {found : Option (Artifact kind)}
    {left : Artifact kind}
    (h : found.filter (fun artifact => (artifact.otherOwner? source).isSome) = some left) :
    left.owner? ≠ some source.metadata.key := by
  intro howner
  have hother := (Option.filter_eq_some_iff.mp h).2
  rw [left.otherOwner?_eq_none.mpr (.inr howner)] at hother
  cases hother

theorem revise_sansVersion (source : ClusterConfig) :
    source.revise artifact.sansVersion = (source.revise artifact).map sansVersion := by
  unfold ClusterConfig.revise
  rw [owner?_sansVersion, payload_sansVersion]
  by_cases howner : artifact.owner?.isNone
  · rw [if_pos howner, if_pos howner]
    rfl
  · rw [if_neg howner, if_neg howner]
    by_cases hsame : artifact.payload = kind.payload source
    · rw [if_pos hsame, if_pos hsame]
      rfl
    · rw [if_neg hsame, if_neg hsame]
      rfl

/-- The labels that name a source are read back as that source. -/
theorem owner?_of_ownerLabels {source : ClusterConfig} {labels : TextMap String}
    (h : artifact.metadata.labels = some (ownerLabels source labels)) :
    artifact.owner? = some source.metadata.key := by
  have hname : (ownerLabels source labels)[sourceLabel]? = some source.metadata.key.name := by
    rw [ownerLabels, Std.ExtTreeMap.getElem?_insert, if_neg (by decide),
      Std.ExtTreeMap.getElem?_insert_self]
  have hns : (ownerLabels source labels)[sourceNamespaceLabel]? =
      some source.metadata.key.ns := by
    rw [ownerLabels, Std.ExtTreeMap.getElem?_insert_self]
  simp only [owner?, h, Option.bind_eq_bind, Option.bind_some, hname, hns, Option.getD_some]
  rfl

/-- A revision changes nothing that says where the artifact is stored, or its version. -/
theorem revise_eq_some {source : ClusterConfig} {revised : Artifact kind}
    (h : source.revise artifact = some revised) :
    revised.metadata.key = artifact.metadata.key ∧
      revised.metadata.resourceVersion = artifact.metadata.resourceVersion := by
  unfold ClusterConfig.revise at h
  split at h
  · cases h
    exact ⟨rfl, rfl⟩
  · dsimp only at h
    split at h
    · cases h
    · cases h
      exact ⟨rfl, rfl⟩

end Artifact

/-! ## Holdings -/

/-- What a source holds. -/
@[ext] structure Holdings (kind : ArtifactKind) where
  tokens : List String
  status : Option ClusterConfigStatus
  /-- The artifacts of the kind that bear the name of the source, by namespace, without
  their versions. -/
  copies : String → Option (Artifact kind)

/-- What a source holds in a cluster. -/
def Cluster.holdings (cluster : Cluster) (base : ClusterConfig) : Holdings base.spec.kind where
  tokens := ((cluster.sources[base.metadata.key]?).map (·.metadata.held)).getD []
  status := (cluster.sources[base.metadata.key]?).bind (·.status)
  copies ns :=
    ((cluster.artifacts base.spec.kind)[(⟨ns, base.metadata.anyName⟩ : ObjectKey)]?).map
      Artifact.sansVersion

theorem Cluster.copies_holdings (cluster : Cluster) (base : ClusterConfig) (ns : String) :
    (cluster.holdings base).copies ns =
      ((cluster.artifacts base.spec.kind)[(⟨ns, base.metadata.anyName⟩ : ObjectKey)]?).map
        Artifact.sansVersion := rfl

theorem Cluster.tokens_holdings {cluster : Cluster} {base source : ClusterConfig}
    (stored : cluster.sources[base.metadata.key]? = some source) :
    (cluster.holdings base).tokens = source.metadata.held := by
  rw [holdings, stored]
  rfl

theorem Cluster.status_holdings {cluster : Cluster} {base source : ClusterConfig}
    (stored : cluster.sources[base.metadata.key]? = some source) :
    (cluster.holdings base).status = source.status := by
  rw [holdings, stored]
  rfl

theorem Cluster.exists_of_copies {cluster : Cluster} {base : ClusterConfig} {ns : String}
    {copy : Artifact base.spec.kind} (h : (cluster.holdings base).copies ns = some copy) :
    ∃ artifact : Artifact base.spec.kind,
      (cluster.artifacts base.spec.kind)[(⟨ns, base.metadata.anyName⟩ : ObjectKey)]? =
        some artifact ∧ artifact.sansVersion = copy :=
  Option.map_eq_some_iff.mp h

/-- The copy of a source in a namespace, once it was brought up to date. -/
def ClusterConfig.upToDate (base : ClusterConfig) (ns : String) :
    Option (Artifact base.spec.kind) → Artifact base.spec.kind
  | none => base.newCopy base.spec.kind base.metadata.anyName ns
  | some artifact => (base.revise artifact).getD artifact

namespace Holdings

variable {kind : ArtifactKind} (holdings : Holdings kind)

def processed : List String :=
  (holdings.status.map (·.processed)).getD []

theorem processed_congr {holdings other : Holdings kind} (h : other.status = holdings.status) :
    other.processed = holdings.processed := by
  unfold processed
  rw [h]

def drop (token : String) : Holdings kind :=
  { holdings with tokens := holdings.tokens.filter (· ≠ token) }

def add (token : String) : Holdings kind :=
  { holdings with
    tokens := if token ∈ holdings.tokens then holdings.tokens else holdings.tokens ++ [token] }

/-- With a record of namespaces. -/
def record (namespaces : List String) : Holdings kind :=
  { holdings with status := some ⟨namespaces⟩ }

/-- With another copy in a namespace, or none. -/
def withCopy (ns : String) (copy : Option (Artifact kind)) : Holdings kind :=
  { holdings with copies := fun other => if other = ns then copy else holdings.copies other }

/-- With the copy in a namespace up to date. -/
def bring {base : ClusterConfig} (holdings : Holdings base.spec.kind) (ns : String) :
    Holdings base.spec.kind :=
  holdings.withCopy ns (some (base.upToDate ns (holdings.copies ns)))

/-- Whether a source that has a name may put a copy into a namespace, which has to be there,
or in place of the one that is there, which must not belong to another source. -/
structure MayBring {base : ClusterConfig} (holdings : Holdings base.spec.kind)
    (live : List String) (ns : String) : Prop where
  named : base.Named
  live : holdings.copies ns = none → ns ∈ live
  own : ∀ copy, holdings.copies ns = some copy → copy.otherOwner? base = none

@[simp] theorem mem_tokens_drop {token other : String} :
    other ∈ (holdings.drop token).tokens ↔ other ∈ holdings.tokens ∧ other ≠ token := by
  simp [drop]

@[simp] theorem copies_drop (token : String) :
    (holdings.drop token).copies = holdings.copies := rfl

@[simp] theorem mem_tokens_add {token other : String} :
    other ∈ (holdings.add token).tokens ↔ other ∈ holdings.tokens ∨ other = token := by
  unfold add
  split
  · next h => exact ⟨.inl, fun hor => hor.elim id fun heq => heq ▸ h⟩
  · simp

@[simp] theorem tokens_record (namespaces : List String) :
    (holdings.record namespaces).tokens = holdings.tokens := rfl

@[simp] theorem copies_record (namespaces : List String) :
    (holdings.record namespaces).copies = holdings.copies := rfl

theorem withCopy_self {ns : String} {copy : Option (Artifact kind)}
    (h : holdings.copies ns = copy) : holdings.withCopy ns copy = holdings := by
  apply Holdings.ext
  · rfl
  · rfl
  · funext other
    show (if other = ns then copy else holdings.copies other) = holdings.copies other
    split
    · next heq => rw [heq, h]
    · rfl

theorem copies_withCopy (ns other : String) (copy : Option (Artifact kind)) :
    (holdings.withCopy ns copy).copies other =
      if other = ns then copy else holdings.copies other := rfl

/-- A copy that is there is brought up to date by its revision, if it needs one. -/
theorem bring_of_found {base : ClusterConfig} {holdings : Holdings base.spec.kind} {ns : String}
    {existing : Artifact base.spec.kind}
    (hcopy : holdings.copies ns = some existing.sansVersion) :
    holdings.bring ns = holdings.withCopy ns
      (some (((base.revise existing).getD existing).sansVersion)) := by
  unfold bring
  rw [hcopy]
  show holdings.withCopy ns (some ((base.revise existing.sansVersion).getD _)) = _
  rw [Artifact.revise_sansVersion]
  cases base.revise existing <;> rfl

/-- What becomes of the holdings when the copy in a namespace is taken away. A lossy store
may say that there is none although there is. -/
inductive Withdrawn {base : ClusterConfig} (lossy : Prop) (holdings : Holdings base.spec.kind)
    (ns : String) : Removal → Holdings base.spec.kind → Prop
  | absent : holdings.copies ns = none ∨ lossy → Withdrawn lossy holdings ns .alreadyAbsent holdings
  | foreign {copy : Artifact base.spec.kind} : holdings.copies ns = some copy →
    (copy.otherOwner? base).isSome → Withdrawn lossy holdings ns .notOwned holdings
  | deleted {copy : Artifact base.spec.kind} : holdings.copies ns = some copy →
    copy.otherOwner? base = none →
    Withdrawn lossy holdings ns .deleted (holdings.withCopy ns none)

end Holdings

end ConfigFanout
