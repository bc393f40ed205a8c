import ConfigFanout.Proofs.Calls

-- The smallest parts of a round of a source that stays, and what each does to what the
-- source holds. Each makes one write at most, so a part that fails has changed nothing.
namespace ConfigFanout

namespace Cluster

/-- Two clusters differ at most in what a source holds: all else is untouched, and so are
the artifacts that belong to another source. -/
structure Spares (base : ClusterConfig) (before after : Cluster) : Prop where
  namespaces : after.namespaces = before.namespaces
  sources : ∀ key, key ≠ base.metadata.key → after.sources[key]? = before.sources[key]?
  kinds : ∀ kind, kind ≠ base.spec.kind → after.artifacts kind = before.artifacts kind
  names : ∀ key : ObjectKey, key.name ≠ base.metadata.anyName →
    (after.artifacts base.spec.kind)[key]? = (before.artifacts base.spec.kind)[key]?
  foreign : ∀ (key : ObjectKey) (artifact : Artifact base.spec.kind),
    (before.artifacts base.spec.kind)[key]? = some artifact →
    (artifact.otherOwner? base).isSome → (after.artifacts base.spec.kind)[key]? = some artifact

theorem Spares.refl (base : ClusterConfig) (cluster : Cluster) : Spares base cluster cluster :=
  ⟨rfl, fun _ _ => rfl, fun _ _ => rfl, fun _ _ => rfl, fun _ _ h _ => h⟩

theorem Spares.trans {base : ClusterConfig} {before middle after : Cluster}
    (h₁ : Spares base before middle) (h₂ : Spares base middle after) :
    Spares base before after where
  namespaces := h₂.namespaces.trans h₁.namespaces
  sources key hne := (h₂.sources key hne).trans (h₁.sources key hne)
  kinds kind hne := (h₂.kinds kind hne).trans (h₁.kinds kind hne)
  names key hne := (h₂.names key hne).trans (h₁.names key hne)
  foreign key artifact ha hother :=
    h₂.foreign key artifact (h₁.foreign key artifact ha hother) hother

theorem Spares.writeSource {base : ClusterConfig} {cluster after : Cluster}
    (namespaces : after.namespaces = cluster.namespaces)
    (sources : ∀ key, key ≠ base.metadata.key → after.sources[key]? = cluster.sources[key]?)
    (artifacts : ∀ kind, after.artifacts kind = cluster.artifacts kind) :
    Spares base cluster after where
  namespaces := namespaces
  sources := sources
  kinds kind _ := artifacts kind
  names key _ := by rw [artifacts]
  foreign key artifact ha _ := by rw [artifacts]; exact ha

/-- An artifact of its name may be written where there is none of another source. -/
theorem Spares.writeCopy {base : ClusterConfig} {cluster after : Cluster} {ns : String}
    {copy : Option (Artifact base.spec.kind)}
    (hfree : ∀ old : Artifact base.spec.kind,
      (cluster.artifacts base.spec.kind)[(⟨ns, base.metadata.anyName⟩ : ObjectKey)]? = some old →
      old.otherOwner? base = none)
    (sources : after.sources = cluster.sources)
    (namespaces : after.namespaces = cluster.namespaces)
    (kinds : ∀ kind, kind ≠ base.spec.kind → after.artifacts kind = cluster.artifacts kind)
    (copies : ∀ key : ObjectKey, (after.artifacts base.spec.kind)[key]? =
      if (⟨ns, base.metadata.anyName⟩ : ObjectKey) = key then copy
      else (cluster.artifacts base.spec.kind)[key]?) : Spares base cluster after where
  namespaces := namespaces
  sources key _ := by rw [sources]
  kinds := kinds
  names key hne := by
    rw [copies, if_neg]
    rintro rfl
    exact hne rfl
  foreign key old hold hother := by
    rw [copies, if_neg]
    · exact hold
    · rintro rfl
      rw [hfree old hold] at hother
      cases hother

/-- A round may lead from one cluster to another, in which the source is still there and
holds the given things. -/
structure Reaches (base : ClusterConfig) (origin : Cluster)
    (holdings : Holdings base.spec.kind) (cluster : Cluster) : Prop where
  spares : Spares base origin cluster
  keyed : cluster.WellKeyed
  stays : ∃ source, cluster.sources[base.metadata.key]? = some source ∧ source.bare = base.bare
  holds : cluster.holdings base = holdings

/-- A round that began in `origin` goes on from a cluster: the source is at hand as it is
stored, and it holds the given things. -/
structure Underway (base : ClusterConfig) (origin : Cluster)
    (holdings : Holdings base.spec.kind) (source : ClusterConfig) (cluster : Cluster) :
    Prop where
  stored : cluster.sources[base.metadata.key]? = some source
  alike : source.bare = base.bare
  reaches : origin.Reaches base holdings cluster

variable {base source : ClusterConfig} {origin cluster : Cluster}
  {holdings : Holdings base.spec.kind}

/-- A round begins with the source as it is stored. -/
theorem Underway.start (keyed : cluster.WellKeyed)
    (stored : cluster.sources[base.metadata.key]? = some source)
    (alike : source.bare = base.bare) :
    Underway base cluster (cluster.holdings base) source cluster :=
  ⟨stored, alike, Spares.refl base cluster, keyed, ⟨source, stored, alike⟩, rfl⟩

namespace Underway

theorem held_eq (h : Underway base origin holdings source cluster) :
    source.metadata.held = holdings.tokens := by
  rw [← h.reaches.holds, tokens_holdings h.stored]

theorem status_eq (h : Underway base origin holdings source cluster) :
    source.status = holdings.status := by
  rw [← h.reaches.holds, status_holdings h.stored]

theorem holds_eq (h : Underway base origin holdings source cluster) (token : String) :
    source.holds token = true ↔ token ∈ holdings.tokens := by
  rw [ClusterConfig.holds, h.held_eq, List.contains_iff_mem]

theorem copies_eq (h : Underway base origin holdings source cluster) (ns : String) :
    ((cluster.artifacts base.spec.kind)[(⟨ns, base.metadata.anyName⟩ : ObjectKey)]?).map
      Artifact.sansVersion = holdings.copies ns := by
  rw [← h.reaches.holds]
  rfl

theorem putSource (h : Underway base origin holdings source cluster) (updated : ClusterConfig)
    (alike : updated.bare = base.bare) :
    Underway base origin
      { holdings with tokens := updated.metadata.held, status := updated.status }
      (updated.atVersion cluster.nextVersion)
      (cluster.putSource base.metadata.key updated) where
  stored := by rw [sources_putSource, if_pos rfl]
  alike := alike
  reaches := {
    spares := h.reaches.spares.trans (Spares.writeSource rfl
      (fun key hne => by rw [sources_putSource, if_neg (Ne.symm hne)])
      fun _ => artifacts_putSource ..)
    keyed := by
      have hkey := ClusterConfig.key_of_alike alike
      rw [← hkey]
      exact h.reaches.keyed.putSource updated
    stays := ⟨updated.atVersion cluster.nextVersion, by rw [sources_putSource, if_pos rfl], alike⟩
    holds := by
      rw [Cluster.holdings, sources_putSource, if_pos rfl, artifacts_putSource,
        ← h.reaches.holds]
      rfl }

/-- The copy in a namespace may be replaced or taken away, unless it belongs to another
source. -/
theorem writeCopy (h : Underway base origin holdings source cluster) {ns : String}
    (copy : Option (Artifact base.spec.kind)) {after : Cluster}
    (hfree : ∀ old, holdings.copies ns = some old → old.otherOwner? base = none)
    (keyed : after.WellKeyed) (sources : after.sources = cluster.sources)
    (namespaces : after.namespaces = cluster.namespaces)
    (kinds : ∀ kind, kind ≠ base.spec.kind → after.artifacts kind = cluster.artifacts kind)
    (copies : ∀ key : ObjectKey, (after.artifacts base.spec.kind)[key]? =
      if (⟨ns, base.metadata.anyName⟩ : ObjectKey) = key then copy
      else (cluster.artifacts base.spec.kind)[key]?) :
    Underway base origin (holdings.withCopy ns (copy.map Artifact.sansVersion)) source after where
  stored := by rw [sources]; exact h.stored
  alike := h.alike
  reaches := {
    spares := h.reaches.spares.trans (Spares.writeCopy (fun old hold => by
      rw [← Artifact.otherOwner?_sansVersion]
      exact hfree _ (by rw [← h.copies_eq ns, hold]; rfl)) sources namespaces kinds copies)
    keyed := keyed
    stays := ⟨source, by rw [sources]; exact h.stored, h.alike⟩
    holds := by
      rw [← h.reaches.holds]
      apply Holdings.ext
      · rw [Cluster.holdings, sources]
        rfl
      · rw [Cluster.holdings, sources]
        rfl
      · funext other
        rw [Holdings.copies_withCopy, copies_holdings, copies, copies_holdings]
        by_cases hns : other = ns
        · rw [if_pos (by rw [hns]), if_pos hns]
        · rw [if_neg (fun heq => hns (congrArg ObjectKey.ns heq).symm), if_neg hns] }

theorem putArtifact (h : Underway base origin holdings source cluster) {ns : String}
    {artifact : Artifact base.spec.kind}
    (hkey : artifact.metadata.key = ⟨ns, base.metadata.anyName⟩)
    (hfree : ∀ old, holdings.copies ns = some old → old.otherOwner? base = none) :
    Underway base origin (holdings.withCopy ns (some artifact.sansVersion)) source
      (cluster.putArtifact artifact) :=
  h.writeCopy (some (artifact.atVersion cluster.nextVersion)) hfree
    (h.reaches.keyed.putArtifact artifact) (sources_putArtifact ..) (namespaces_putArtifact ..)
    (fun _ hne => artifacts_putArtifact_ne _ hne _)
    fun _ => by rw [artifacts_putArtifact, hkey]

theorem removeArtifact (h : Underway base origin holdings source cluster) {ns : String}
    (hfree : ∀ old, holdings.copies ns = some old → old.otherOwner? base = none) :
    Underway base origin (holdings.withCopy ns none) source
      (cluster.removeArtifact base.spec.kind ⟨ns, base.metadata.anyName⟩) :=
  h.writeCopy none hfree (h.reaches.keyed.removeArtifact _ _) (sources_removeArtifact ..)
    (namespaces_removeArtifact ..) (fun _ hne => artifacts_removeArtifact_ne _ hne _)
    fun _ => artifacts_removeArtifact ..

end Underway

/-! ## The parts -/

namespace Underway

variable {may : Refusal → Prop}

theorem updateSource_ensures (h : Underway base origin holdings source cluster)
    (stays : base.isDeleting = false) (finalizers : List String) :
    (Program.ask (.updateSource (source.withFinalizers finalizers))).Ensures
      (Cluster.faulty may) cluster
      (fun stored after => Underway base origin { holdings with tokens := finalizers } stored after)
      fun _ after => origin.Reaches base holdings after ∧ Refusal.Possible may := by
  have hkey : (source.withFinalizers finalizers).metadata.key = base.metadata.key :=
    ClusterConfig.key_of_alike h.alike
  have hstays : (source.withFinalizers finalizers).isDeleting = false :=
    (ClusterConfig.deleting_of_alike h.alike).trans stays
  refine (cluster.updateSource_ensures (source.withFinalizers finalizers)).mono ?_ ?_
  · rintro written after ⟨stored, hstored, rfl, rfl⟩
    rw [hkey, h.stored] at hstored
    cases hstored
    have hnext := h.putSource (source.withFinalizers finalizers) h.alike
    rw [show (source.withFinalizers finalizers).status = holdings.status from h.status_eq]
      at hnext
    unfold replaceSource
    rw [show ({ source.withFinalizers finalizers with status := source.status } :
      ClusterConfig) = source.withFinalizers finalizers from rfl, hstays, Bool.false_and,
      if_neg Bool.false_ne_true, hkey]
    exact hnext
  · rintro error after ⟨rfl, hcause⟩
    exact ⟨h.reaches, hcause.resolve_right fun hno => hno source (hkey ▸ h.stored) rfl⟩

theorem addToken_ensures (h : Underway base origin holdings source cluster)
    (stays : base.isDeleting = false) (token : String) :
    (source.addToken token).Ensures (Cluster.faulty may) cluster
      (fun stored after => Underway base origin (holdings.add token) stored after)
      fun _ after => origin.Reaches base holdings after ∧ Refusal.Possible may := by
  unfold ClusterConfig.addToken Holdings.add
  by_cases hheld : token ∈ holdings.tokens
  · rw [if_pos ((h.holds_eq token).mpr hheld), if_pos hheld]
    exact h
  · rw [if_neg (fun hor => hheld ((h.holds_eq token).mp hor)), if_neg hheld, ← h.held_eq]
    exact h.updateSource_ensures stays _

theorem dropToken_ensures (h : Underway base origin holdings source cluster)
    (stays : base.isDeleting = false) (token : String) :
    (source.dropToken token).Ensures (Cluster.faulty may) cluster
      (fun stored after => Underway base origin (holdings.drop token) stored after)
      fun _ after => origin.Reaches base holdings after ∧ Refusal.Possible may := by
  unfold ClusterConfig.dropToken Holdings.drop
  by_cases hheld : token ∈ holdings.tokens
  · rw [if_pos ((h.holds_eq token).mpr hheld), ← h.held_eq]
    exact h.updateSource_ensures stays _
  · rw [if_neg (fun hor => hheld ((h.holds_eq token).mp hor))]
    have hsame : holdings.tokens.filter (· ≠ token) = holdings.tokens :=
      List.filter_eq_self.mpr fun other hmem => by
        simpa using fun heq : other = token => hheld (heq ▸ hmem)
    rw [hsame]
    exact h

theorem recordProcessed_ensures (h : Underway base origin holdings source cluster)
    (namespaces : List String) :
    (source.recordProcessed namespaces).Ensures (Cluster.faulty may) cluster
      (fun stored after => Underway base origin (holdings.record namespaces) stored after)
      fun _ after => origin.Reaches base holdings after ∧ Refusal.Possible may := by
  unfold ClusterConfig.recordProcessed
  by_cases hsame : source.status = some ⟨namespaces⟩
  · rw [if_pos hsame]
    have hrecord : holdings.record namespaces = holdings := by
      rw [Holdings.record, ← hsame, h.status_eq]
    show Underway base origin (holdings.record namespaces) source cluster
    rw [hrecord]
    exact h
  · rw [if_neg hsame]
    have hkey := ClusterConfig.key_of_alike h.alike
    refine (cluster.updateStatus_ensures { source with status := some ⟨namespaces⟩ }).mono ?_ ?_
    · rintro written after ⟨stored, hstored, rfl, rfl⟩
      rw [show ({ source with status := some ⟨namespaces⟩ } : ClusterConfig).metadata.key =
        base.metadata.key from hkey] at hstored ⊢
      rw [h.stored] at hstored
      cases hstored
      have hnext := h.putSource { source with status := some ⟨namespaces⟩ } h.alike
      rwa [show ({ source with status := some ⟨namespaces⟩ } : ClusterConfig).metadata.held =
        holdings.tokens from h.held_eq] at hnext
    · rintro error after ⟨rfl, hcause⟩
      refine ⟨h.reaches, hcause.resolve_right fun hno => ?_⟩
      rw [show ({ source with status := some ⟨namespaces⟩ } : ClusterConfig).metadata.key =
        base.metadata.key from hkey, h.stored] at hno
      cases hno

theorem withdraw_ensures (h : Underway base origin holdings source cluster) (ns : String) :
    (source.withdraw base.spec.kind ns).Ensures (Cluster.faulty may) cluster
      (fun removal after => base.Named ∧ ∃ next,
        holdings.Withdrawn (Refusal.Loses may) ns removal next ∧
          Underway base origin next source after)
      fun _ after => origin.Reaches base holdings after ∧
        (Refusal.Possible may ∨ ¬ base.Named) := by
  refine (source.withdraw_ensures cluster base.spec.kind ns).mono ?_ ?_
  · rintro removal after ⟨named, hwithdrawn⟩
    rw [ClusterConfig.anyName_of_alike h.alike] at hwithdrawn
    refine ⟨(ClusterConfig.named_of_alike h.alike).mp named, ?_⟩
    have hcopies := h.copies_eq ns
    cases hwithdrawn with
    | absent hnone =>
      exact ⟨holdings, .absent (hnone.imp_left fun missing => by rw [← hcopies, missing]; rfl), h⟩
    | foreign found hother =>
      rw [Artifact.otherOwner?_of_alike _ h.alike] at hother
      rw [found] at hcopies
      exact ⟨holdings, .foreign hcopies.symm hother, h⟩
    | deleted found hown =>
      rw [Artifact.otherOwner?_of_alike _ h.alike] at hown
      rw [found] at hcopies
      refine ⟨holdings.withCopy ns none, .deleted hcopies.symm hown, h.removeArtifact ?_⟩
      intro old hold
      rwa [← Option.some.inj (hcopies.trans hold)]
  · rintro error after ⟨rfl, hcause⟩
    exact ⟨h.reaches, hcause.imp_right (mt (ClusterConfig.named_of_alike h.alike).mpr)⟩

/-- A source may put a copy where its holdings say so. -/
theorem receives_iff (h : Underway base origin holdings source cluster) (ns : String) :
    cluster.Receives source base.spec.kind ⟨ns, base.metadata.anyName⟩ ↔
      holdings.MayBring origin.namespaces ns := by
  have hcopies := h.copies_eq ns
  rw [← h.reaches.spares.namespaces]
  constructor
  · rintro ⟨named, live, own⟩
    refine ⟨(ClusterConfig.named_of_alike h.alike).mp named, fun hnone => live ?_,
      fun copy hcopy => ?_⟩
    · rwa [← hcopies, Option.map_eq_none_iff] at hnone
    · rw [← hcopies, Option.map_eq_some_iff] at hcopy
      obtain ⟨artifact, found, rfl⟩ := hcopy
      rw [Artifact.otherOwner?_sansVersion, ← Artifact.otherOwner?_of_alike _ h.alike]
      exact own artifact found
  · rintro ⟨named, live, own⟩
    refine ⟨(ClusterConfig.named_of_alike h.alike).mpr named, fun missing => live ?_,
      fun artifact found => ?_⟩
    · rw [← hcopies, missing]
      rfl
    · rw [Artifact.otherOwner?_of_alike _ h.alike, ← Artifact.otherOwner?_sansVersion]
      exact own _ (by rw [← hcopies, found]; rfl)

theorem synchronize_ensures (h : Underway base origin holdings source cluster) (ns : String) :
    (source.synchronize base.spec.kind ns).Ensures (Cluster.faulty may) cluster
      (fun _ after => holdings.MayBring origin.namespaces ns ∧
        Underway base origin (holdings.bring ns) source after)
      fun _ after => origin.Reaches base holdings after ∧
        (Refusal.Possible may ∨ ¬ holdings.MayBring origin.namespaces ns) := by
  refine (source.synchronize_ensures h.reaches.keyed base.spec.kind ns).mono ?_ ?_
  · rintro outcome after ⟨named, hsynchronized⟩
    rw [ClusterConfig.anyName_of_alike h.alike] at hsynchronized
    have hmay := (h.receives_iff ns).mp (hsynchronized.receives named)
    have hfree := hmay.own
    have hcopies := h.copies_eq ns
    refine ⟨hmay, ?_⟩
    cases hsynchronized with
    | created missing =>
      rw [missing] at hcopies
      rw [ClusterConfig.newCopy_of_alike h.alike]
      unfold Holdings.bring
      rw [← hcopies]
      have hkey : (base.newCopy base.spec.kind base.metadata.anyName ns).metadata.key =
        ⟨ns, base.metadata.anyName⟩ := rfl
      exact h.putArtifact hkey hfree
    | @updated existing revised found _ hrevise =>
      obtain ⟨hkey, -⟩ := existing.revise_eq_some hrevise
      rw [h.reaches.keyed.artifacts _ _ existing found] at hkey
      rw [found] at hcopies
      rw [ClusterConfig.revise_of_alike h.alike] at hrevise
      rw [Holdings.bring_of_found hcopies.symm, hrevise]
      exact h.putArtifact hkey hfree
    | unchanged found _ hrevise =>
      rw [found] at hcopies
      rw [ClusterConfig.revise_of_alike h.alike] at hrevise
      rw [Holdings.bring_of_found hcopies.symm, hrevise]
      have hsame := holdings.withCopy_self hcopies.symm
      exact hsame.symm ▸ h
  · rintro error after ⟨rfl, hcause⟩
    rw [ClusterConfig.anyName_of_alike h.alike, h.receives_iff] at hcause
    exact ⟨h.reaches, hcause⟩

end Underway

end Cluster

end ConfigFanout
