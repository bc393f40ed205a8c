import ConfigFanout.Proofs.Repetition
import ConfigFanout.Routing

-- What bringing one copy up to date comes to, field by field. It makes one write at most: a new
-- artifact with two labels, or the entries of one that is there, with the labels if nobody's are on
-- it. Whichever way it succeeds, the copy names its source then, and nothing is left to do.
namespace ConfigFanout

/-! ## Labels and parts -/

/-- The parts of its own that an artifact has of which only the type is given, which ConfigMaps do
not have. -/
def ArtifactKind.ofType (kind : ArtifactKind) (type : Option String) : kind.Parts :=
  match kind with
  | .configMap => {}
  | .secret => { secretType := type }

theorem ArtifactKind.newParts_eq (kind : ArtifactKind) (source : ClusterConfig) :
    kind.newParts source =
      kind.ofType (if source.spec.secretType = some "" then none else source.spec.secretType) := by
  cases kind with
  | configMap => rfl
  | secret =>
    unfold newParts ofType
    cases source.spec.secretType with
    | none => rfl
    | some type => by_cases hempty : type = "" <;> simp [hempty]

namespace Artifact

variable {kind : ArtifactKind}

/-- The labels of an artifact are some others and the two that name a source. -/
def Signed (artifact : Artifact kind) (name ns : String) (others : TextMap String) : Prop :=
  ∃ labels, artifact.metadata.labels = some labels ∧ ∀ label : String, labels[label]? =
    if label = "homerow.ca/cluster-config" then some name
    else if label = "homerow.ca/cluster-config-namespace" then some ns
    else others[label]?

theorem signed_of_ownerLabels {artifact : Artifact kind} {source : ClusterConfig}
    {others : TextMap String}
    (h : artifact.metadata.labels = some (ownerLabels source others)) :
    artifact.Signed source.metadata.key.name source.metadata.key.ns others := by
  refine ⟨_, h, fun label => ?_⟩
  rw [ownerLabels, Std.ExtTreeMap.getElem?_insert, Std.ExtTreeMap.getElem?_insert]
  by_cases hname : label = sourceLabel
  · subst hname
    rw [if_neg (by decide), if_pos (by decide)]
    rfl
  · by_cases hns : label = sourceNamespaceLabel
    · subst hns
      rw [if_pos (by decide)]
      rfl
    · rw [if_neg (by simpa using Ne.symm hns), if_neg (by simpa using Ne.symm hname)]
      exact ((if_neg hname).trans (if_neg hns)).symm

/-- What is there is taken over if it is nobody's, and is written if its entries differ. -/
theorem revise_cases {source : ClusterConfig} {existing revised : Artifact kind}
    (h : source.revise existing = some revised) :
    existing.owner? = none ∧
        revised = (existing.adopt source).withPayload (kind.payload source) ∨
      existing.owner? ≠ none ∧ existing.payload ≠ kind.payload source ∧
        revised = existing.withPayload (kind.payload source) := by
  unfold ClusterConfig.revise at h
  split at h
  · next hnone => exact .inl ⟨Option.isNone_iff_eq_none.mp hnone, (Option.some.inj h).symm⟩
  · next howned =>
    dsimp only at h
    split at h
    · cases h
    · next hdiffers =>
      exact .inr ⟨mt Option.isNone_iff_eq_none.mpr howned, hdiffers, (Option.some.inj h).symm⟩

theorem revise_eq_none {source : ClusterConfig} {existing : Artifact kind} :
    source.revise existing = none ↔
      existing.owner? ≠ none ∧ existing.payload = kind.payload source := by
  unfold ClusterConfig.revise
  by_cases hnone : existing.owner?.isNone
  · simp [Option.isNone_iff_eq_none.mp hnone]
  · by_cases hsame : existing.payload = kind.payload source
    · simp [hnone, hsame, mt Option.isNone_iff_eq_none.mpr hnone]
    · simp [hnone, hsame]

end Artifact

/-! ## Ways to end -/

namespace Cluster

variable {before after : Cluster} {source : ClusterConfig} {kind : ArtifactKind}
  {place : ObjectKey}

/-- Nothing but the artifact at a place differs. -/
structure SameBut (before after : Cluster) (kind : ArtifactKind) (place : ObjectKey) : Prop where
  namespaces : after.namespaces = before.namespaces
  sources : after.sources = before.sources
  kinds : ∀ other, other ≠ kind → after.artifacts other = before.artifacts other
  places : ∀ other, other ≠ place →
    (after.artifacts kind)[other]? = (before.artifacts kind)[other]?

/-- A new copy was put up where there was no artifact. -/
structure Creates (before after : Cluster) (source : ClusterConfig) (kind : ArtifactKind)
    (place : ObjectKey) : Prop extends SameBut before after kind place where
  vacant : (before.artifacts kind)[place]? = none
  /-- It has the two labels, the data of the source and, if it is a Secret, the type that the source
  gives, and nothing else. -/
  copy : ∃ copy : Artifact kind, (after.artifacts kind)[place]? = some copy ∧
    copy.Signed place.name (source.metadata.ns.getD "") ∅ ∧
    copy = {
      metadata := {
        name := some place.name
        ns := some place.ns
        labels := copy.metadata.labels
        resourceVersion := some (toString before.nextVersion) }
      data := some (kind.payload source)
      immutable := none
      parts := kind.ofType
        (if source.spec.secretType = some "" then none else source.spec.secretType) }

/-- The copy that was there was replaced. -/
structure Updates (before after : Cluster) (source : ClusterConfig) (kind : ArtifactKind)
    (place : ObjectKey) : Prop extends SameBut before after kind place where
  /-- It was nobody's, and has the labels of the source now, or was the source's own, with other
  data. All but its labels, data and version is as it was. -/
  copy : ∃ existing copy : Artifact kind, (before.artifacts kind)[place]? = some existing ∧
    (after.artifacts kind)[place]? = some copy ∧
    (existing.owner? = none ∧ copy.Signed place.name (source.metadata.ns.getD "")
        (existing.metadata.labels.getD ∅) ∨
      existing.owner? = some ⟨source.metadata.ns.getD "", place.name⟩ ∧
        existing.data.getD ∅ ≠ kind.payload source ∧
        copy.metadata.labels = existing.metadata.labels) ∧
    copy = { existing with
      metadata := { existing.metadata with
        labels := copy.metadata.labels
        resourceVersion := some (toString before.nextVersion) }
      data := some (kind.payload source) }

/-- The copy that is there is the source's own, and has its data. -/
def Carries (cluster : Cluster) (source : ClusterConfig) (kind : ArtifactKind)
    (place : ObjectKey) : Prop :=
  ∃ existing : Artifact kind, (cluster.artifacts kind)[place]? = some existing ∧
    existing.owner? = some ⟨source.metadata.ns.getD "", place.name⟩ ∧
    existing.data.getD ∅ = kind.payload source

/-- What bringing a copy up to date leaves, by how it ends. -/
def Upkept (before after : Cluster) (source : ClusterConfig) (kind : ArtifactKind)
    (place : ObjectKey) : Except Error Synced → Prop
  | .error _ => after = before
  | .ok .created => before.Creates after source kind place
  | .ok .updated => before.Updates after source kind place
  | .ok .unchanged => before.Carries source kind place ∧ after = before

theorem sameBut_putArtifact (cluster : Cluster) (artifact : Artifact kind) :
    cluster.SameBut (cluster.putArtifact artifact) kind artifact.metadata.key where
  namespaces := namespaces_putArtifact ..
  sources := sources_putArtifact ..
  kinds _ hne := artifacts_putArtifact_ne _ hne _
  places _ hne := by rw [artifacts_putArtifact, if_neg (Ne.symm hne)]

theorem key_of_named {name : String} (named : source.metadata.name = some name) :
    source.metadata.key = ⟨source.metadata.ns.getD "", name⟩ := by
  rw [Metadata.key, Metadata.anyName, named]
  rfl

theorem creates_newCopy {name ns : String} (named : source.metadata.name = some name)
    (missing : (before.artifacts kind)[(⟨ns, name⟩ : ObjectKey)]? = none) :
    before.Creates (before.putArtifact (source.newCopy kind name ns)) source kind
      ⟨ns, name⟩ where
  toSameBut := before.sameBut_putArtifact (source.newCopy kind name ns)
  vacant := missing
  copy := by
    have hkey : (source.newCopy kind name ns).metadata.key = ⟨ns, name⟩ := rfl
    have hsigned : ((source.newCopy kind name ns).atVersion before.nextVersion).Signed
        source.metadata.key.name source.metadata.key.ns ∅ :=
      Artifact.signed_of_ownerLabels rfl
    rw [key_of_named named] at hsigned
    refine ⟨_, by rw [artifacts_putArtifact, if_pos hkey], hsigned, ?_⟩
    rw [← ArtifactKind.newParts_eq]
    rfl

/-- An artifact that no other source's labels are on is nobody's, or the source's own. -/
theorem updates_revised {name ns : String} (named : source.metadata.name = some name)
    (keyed : before.WellKeyed) {existing revised : Artifact kind}
    (found : (before.artifacts kind)[(⟨ns, name⟩ : ObjectKey)]? = some existing)
    (own : existing.otherOwner? source = none) (hrevise : source.revise existing = some revised) :
    before.Updates (before.putArtifact revised) source kind ⟨ns, name⟩ := by
  have hkey : revised.metadata.key = ⟨ns, name⟩ := by
    rw [(existing.revise_eq_some hrevise).1]
    exact keyed.artifacts kind _ existing found
  have hstored : ((before.putArtifact revised).artifacts kind)[(⟨ns, name⟩ : ObjectKey)]? =
      some (revised.atVersion before.nextVersion) := by
    rw [artifacts_putArtifact, if_pos hkey]
  refine ⟨hkey ▸ before.sameBut_putArtifact revised, existing, _, found, hstored, ?_⟩
  rcases existing.revise_cases hrevise with ⟨hnobody, rfl⟩ | ⟨howned, hdiffers, rfl⟩
  · have hsigned : (((existing.adopt source).withPayload (kind.payload source)).atVersion
        before.nextVersion).Signed source.metadata.key.name source.metadata.key.ns
          (existing.metadata.labels.getD ∅) :=
      Artifact.signed_of_ownerLabels rfl
    rw [key_of_named named] at hsigned
    exact ⟨.inl ⟨hnobody, hsigned⟩, rfl⟩
  · have hmine := (existing.otherOwner?_eq_none.mp own).resolve_left howned
    rw [key_of_named named] at hmine
    exact ⟨.inr ⟨hmine, hdiffers, rfl⟩, rfl⟩

theorem Synchronized.upkept {name ns : String} (named : source.metadata.name = some name)
    (keyed : before.WellKeyed) {outcome : Synced}
    (h : before.Synchronized source kind ⟨ns, name⟩ outcome after) :
    before.Upkept after source kind ⟨ns, name⟩ (.ok outcome) := by
  cases h with
  | created missing => exact creates_newCopy named missing
  | updated found own hrevise => exact updates_revised named keyed found own hrevise
  | @unchanged existing found own hrevise =>
    obtain ⟨howned, hsame⟩ := Artifact.revise_eq_none.mp hrevise
    have hmine := (existing.otherOwner?_eq_none.mp own).resolve_left howned
    rw [key_of_named named] at hmine
    exact ⟨⟨existing, found, hmine, hsame⟩, rfl⟩

/-- Whichever way a copy was brought up to date, it carries the data of its source then. -/
theorem Upkept.carries {outcome : Synced}
    (h : before.Upkept after source kind place (.ok outcome)) :
    after.Carries source kind place := by
  have hsigned : ∀ {copy : Artifact kind} {others : TextMap String},
      copy.Signed place.name (source.metadata.ns.getD "") others →
      copy.owner? = some ⟨source.metadata.ns.getD "", place.name⟩ := by
    rintro copy others ⟨labels, hlabels, hentries⟩
    have hname : labels[Artifact.sourceLabel]? = some place.name := hentries _
    have hns : labels[Artifact.sourceNamespaceLabel]? = some (source.metadata.ns.getD "") :=
      hentries _
    simp only [Artifact.owner?, hlabels, Option.bind_eq_bind, Option.bind_some, hname, hns,
      Option.getD_some]
    rfl
  cases outcome with
  | created =>
    obtain ⟨copy, hstored, hsign, heq⟩ := h.copy
    exact ⟨copy, hstored, hsigned hsign, by rw [heq]; rfl⟩
  | updated =>
    obtain ⟨existing, copy, found, hstored, ⟨-, hsign⟩ | ⟨hmine, -, hlabels⟩, heq⟩ := h.copy
    · exact ⟨copy, hstored, hsigned hsign, by rw [heq]; rfl⟩
    · refine ⟨copy, hstored, ?_, by rw [heq]; rfl⟩
      rw [← hmine, Artifact.owner?, Artifact.owner?, hlabels]
  | unchanged =>
    obtain ⟨hcarries, rfl⟩ := h
    exact hcarries

theorem Synchronized.keyed (keyed : before.WellKeyed) {outcome : Synced}
    (h : before.Synchronized source kind place outcome after) : after.WellKeyed := by
  cases h with
  | created => exact keyed.putArtifact _
  | updated => exact keyed.putArtifact _
  | unchanged => exact keyed

end Cluster

namespace ClusterConfig

variable {source : ClusterConfig} {kind : ArtifactKind} {cluster : Cluster}

/-- Bringing a copy up to date makes one write at most, and none if the copy is fine, whatever the
answers are. -/
theorem synchronize_writes {σ : Type} {around : Surroundings σ} {state : σ}
    (source : ClusterConfig) (kind : ArtifactKind) (ns : String) :
    (source.synchronize kind ns).Traces around state fun acts result _ =>
      ((acts.filterMap Act.call?).filter StoreCall.writes).length ≤ 1 ∧
      (result = .ok .unchanged → (acts.filterMap Act.call?).filter StoreCall.writes = []) := by
  unfold synchronize
  cases source.requireName with
  | error error => exact ⟨Nat.zero_le 1, nofun⟩
  | ok name =>
    rw [Program.ofExcept_ok, pure_bind]
    refine (Program.traces_bind _ _).mpr ((Program.traces_attempt _).mpr
      ((Program.traces_ask _).mpr fun found after _ => ?_))
    cases found with
    | error error =>
      dsimp only
      split
      · refine (Program.traces_bind _ _).mpr ((Program.traces_map _ _).mpr
          ((Program.traces_ask _).mpr fun created _ _ => ?_))
        cases created <;> exact ⟨Nat.le_refl 1, nofun⟩
      · exact ⟨Nat.zero_le 1, nofun⟩
    | ok existing =>
      dsimp only
      cases existing.otherOwner? source with
      | some owner => exact ⟨Nat.zero_le 1, nofun⟩
      | none =>
        dsimp only
        cases source.revise existing with
        | none => exact ⟨Nat.zero_le 1, fun _ => rfl⟩
        | some revised =>
          refine (Program.traces_bind _ _).mpr ((Program.traces_map _ _).mpr
            ((Program.traces_ask _).mpr fun replaced _ _ => ?_))
          cases replaced <;> exact ⟨Nat.le_refl 1, nofun⟩

/-- Where the copy carries the data of its source already, nothing is to be done. -/
theorem synchronize_of_carries {name ns : String} (named : source.metadata.name = some name)
    (keyed : cluster.WellKeyed) (carries : cluster.Carries source kind ⟨ns, name⟩) :
    ((source.synchronize kind ns).run Simulation.store { cluster }).1 = .ok .unchanged := by
  obtain ⟨copy, hstored, howner, hpayload⟩ := carries
  have hname : source.metadata.anyName = name := by
    rw [Metadata.anyName, named]
    rfl
  have hmine : copy.owner? = some source.metadata.key := by
    rw [howner, Cluster.key_of_named named]
  have hown : copy.otherOwner? source = none := copy.otherOwner?_eq_none.mpr (.inr hmine)
  have hrevise : source.revise copy = none :=
    Artifact.revise_eq_none.mpr ⟨by simp [hmine], hpayload⟩
  have hensures : (source.synchronize kind ns).Ensures (Cluster.faulty fun _ => False) cluster
      (fun outcome _ => outcome = .unchanged) fun _ _ => False := by
    refine (source.synchronize_ensures keyed kind ns).mono ?_ ?_
    · rintro outcome after ⟨-, hsynchronized⟩
      rw [hname] at hsynchronized
      cases hsynchronized with
      | created missing =>
        rw [hstored] at missing
        cases missing
      | updated found _ hrevised =>
        rw [← Option.some.inj (hstored.symm.trans found), hrevise] at hrevised
        cases hrevised
      | unchanged => rfl
    · -- Nothing stands in the way of a copy there, and no call is refused.
      rintro error after ⟨-, ⟨-, hno⟩ | hno⟩
      · exact hno
      · rw [hname] at hno
        refine hno ⟨⟨name, by rw [requireName, named]⟩, fun hnone => ?_, fun other hother => ?_⟩
        · rw [hstored] at hnone
          cases hnone
        · rwa [← Option.some.inj (hstored.symm.trans hother)]
  have hends := hensures.simulate (Simulation.undisturbed_without_rules cluster)
  cases hresult : ((source.synchronize kind ns).run Simulation.store { cluster }).1 with
  | error error => exact (hends.2 error _ (Prod.ext hresult rfl)).elim
  | ok outcome => exact congrArg Except.ok (hends.1 outcome _ (Prod.ext hresult rfl))

end ClusterConfig

/-- Whichever calls fail, bringing the copy of a source in a namespace up to date makes one write at
most, and ends in one of four ways: it fails and nothing is changed; it puts a new copy up; it
replaces a copy that is nobody's, or the source's own with other data; or it finds the data in place
and writes nothing. If it does not fail, the labels of the copy name the source, and a second time
without faults finds nothing to do. -/
theorem bringing_a_copy_up_to_date_ends_in_one_of_four_ways {may : Refusal → Prop}
    {simulation : Simulation} {source : ClusterConfig} {name : String}
    (undisturbed : simulation.Undisturbed may) (keyed : simulation.cluster.WellKeyed)
    (named : source.metadata.name = some name) (kind : ArtifactKind) (ns : String) :
    let calls := (simulation.acts (source.synchronize kind ns)).filterMap Act.call?
    let result := ((source.synchronize kind ns).run Simulation.store simulation).1
    let after := ((source.synchronize kind ns).run Simulation.store simulation).2.cluster
    (calls.filter StoreCall.writes).length ≤ 1 ∧
    (result = .ok .unchanged → calls.filter StoreCall.writes = []) ∧
    simulation.cluster.Upkept after source kind ⟨ns, name⟩ result ∧
    ∀ outcome, result = .ok outcome →
      (∃ copy, (after.artifacts kind)[(⟨ns, name⟩ : ObjectKey)]? = some copy ∧
        copy.notified? = some ⟨some (source.metadata.ns.getD ""), name⟩) ∧
      ((source.synchronize kind ns).run Simulation.store { cluster := after }).1 =
        .ok .unchanged := by
  intro calls result after
  obtain ⟨hone, hnone⟩ := (source.synchronize_writes kind ns).simulate undisturbed
  have hname : source.metadata.anyName = name := by
    rw [Metadata.anyName, named]
    rfl
  have hensures := (source.synchronize_ensures keyed kind ns).simulate undisturbed
  rw [hname] at hensures
  refine ⟨hone, hnone, ?_, fun outcome hresult => ?_⟩
  · cases hresult : result with
    | error error => exact (hensures.2 error _ (Prod.ext hresult rfl)).1
    | ok outcome =>
      exact (hensures.1 outcome _ (Prod.ext hresult rfl)).2.upkept named keyed
  · obtain ⟨-, hsynchronized⟩ := hensures.1 outcome _ (Prod.ext hresult rfl)
    have hcarries := (hsynchronized.upkept named keyed).carries
    refine ⟨?_, ClusterConfig.synchronize_of_carries named (hsynchronized.keyed keyed) hcarries⟩
    obtain ⟨copy, hstored, howner, -⟩ := hcarries
    exact ⟨copy, hstored, by rw [Artifact.notified?, howner]; rfl⟩

/-- A source that is copied into Secrets. -/
def ClusterConfig.adopting : ClusterConfig :=
  { ClusterConfig.trial "a" with
    spec := { namespaceList := "a", kind := .secret, data := {("k", "v")} } }

/-- A Secret of nobody, although one of the two labels is on it, with a type and an annotation. -/
def Artifact.adoptable : Artifact .secret where
  metadata := {
    name := some "app-config"
    ns := some "a"
    labels := some {("team", "x"), (sourceNamespaceLabel, "elsewhere")}
    annotations := some {("note", "keep")} }
  immutable := some true
  parts := { secretType := some "kubernetes.io/tls" }

def Simulation.adopting : Simulation where
  cluster := ({ namespaces := ["a"] } : Cluster).putArtifact .adoptable

/-- It is taken over with its type, its annotation and its other label. -/
theorem a_secret_of_nobody_is_taken_over :
    let after := ((ClusterConfig.adopting.synchronize .secret "a").run Simulation.store
      .adopting).2.cluster
    ∃ copy : Artifact .secret,
      (after.artifacts .secret)[(⟨"a", "app-config"⟩ : ObjectKey)]? = some copy ∧
      copy.notified? = some ⟨some "default", "app-config"⟩ ∧
      copy.parts.secretType = some "kubernetes.io/tls" ∧
      copy.metadata.annotations = some {("note", "keep")} ∧
      ((ClusterConfig.adopting.synchronize .secret "a").run Simulation.store
        { cluster := after }).1 = .ok .unchanged := by
  intro after
  have hresult : ((ClusterConfig.adopting.synchronize .secret "a").run Simulation.store
      .adopting).1 = .ok .updated := by decide +kernel
  obtain ⟨-, -, hupkept, hdone⟩ := @bringing_a_copy_up_to_date_ends_in_one_of_four_ways
    (fun _ => True) .adopting .adopting "app-config" ⟨by simp [Simulation.adopting], by simp⟩
    ((Cluster.keyed_empty _).putArtifact _) rfl .secret "a"
  rw [hresult] at hupkept
  obtain ⟨⟨copy, hstored, hnotified⟩, hagain⟩ := hdone .updated hresult
  obtain ⟨existing, updated, found, hupdated, -, heq⟩ := hupkept.copy
  obtain rfl := Option.some.inj (hstored.symm.trans hupdated)
  have hfound : (Simulation.adopting.cluster.artifacts .secret)[
      (⟨"a", "app-config"⟩ : ObjectKey)]? = some (Artifact.adoptable.atVersion 1) := by
    decide +kernel
  obtain rfl := Option.some.inj (hfound.symm.trans found)
  exact ⟨copy, hstored, hnotified, by rw [heq]; rfl, by rw [heq]; rfl, hagain⟩

end ConfigFanout
