import ConfigFanout.Proofs.PhaseOrder
import ConfigFanout.Proofs.SharedToken

-- What is left once the round for a source on its way out is over and no call was refused: which
-- namespaces it was cleared from, which finalizers it has then, and whether it is there at all.
namespace ConfigFanout

namespace ClusterConfig

/-- Whether a source on its way out is cleared from a namespace. One that goes to all of them is
cleared from those that there are; another one from those of its list and those whose tokens it
holds, and from all that there are, too, if it holds the token for all of them and has no entry
of that name. -/
def Clears (source : ClusterConfig) (live : List String) (ns : String) : Prop :=
  let target := NamespaceList.target source.spec.namespaceList live
  if target.all then ns ∈ live
  else ns ∈ target.namespaces ∨ ns ∈ source.namespaceTokens ∨
    everyToken ∈ source.metadata.held ∧ everyToken ∉ target.namespaces ∧ ns ∈ live

/-- The finalizers that such a source is left with: those that look like ones of others and are
no entry of an explicit list. -/
def leavings (source : ClusterConfig) (live : List String) : List String :=
  let target := NamespaceList.target source.spec.namespaceList live
  source.metadata.held.filter fun token =>
    isForeignFinalizer token && (target.all || !target.namespaces.contains token)

variable {source : ClusterConfig} {live : List String} {ns : String}

theorem copy_mem_undoings_iff : .copy ns ∈ source.undoings live ↔ source.Clears live ns := by
  unfold undoings Clears
  dsimp only
  by_cases hall : (NamespaceList.target source.spec.namespaceList live).all
  · rw [if_pos hall, if_pos hall, Undoing.copy_mem_sweeping]
    exact NamespaceList.mem_target_of_all rfl hall
  · rw [if_neg hall, if_neg hall, List.mem_append, Undoing.copy_mem_clearing, List.mem_append,
      NamespaceList.mem_stale, or_assoc]
    refine ⟨?_, ?_⟩
    · rintro (hlisted | ⟨hheld, -⟩ | hlate)
      · exact .inl hlisted
      · exact .inr (.inl hheld)
      · split at hlate
        · next hlast =>
          rw [Bool.and_eq_true, Bool.not_eq_true', List.contains_eq_mem,
            decide_eq_false_iff_not, holds, List.contains_iff_mem] at hlast
          exact .inr (.inr ⟨hlast.1, hlast.2, Undoing.copy_mem_sweeping.mp hlate⟩)
        · exact absurd hlate List.not_mem_nil
    · by_cases hlisted : ns ∈ (NamespaceList.target source.spec.namespaceList live).namespaces
      · exact fun _ => .inl hlisted
      · rintro (hlisted | hheld | ⟨hevery, hunlisted, hlive⟩)
        · exact .inl hlisted
        · exact .inr (.inl ⟨hheld, hlisted⟩)
        · refine .inr (.inr ?_)
          rw [if_pos (by simp [holds, hevery, hunlisted])]
          exact Undoing.copy_mem_sweeping.mpr hlive

theorem left_undoings (source : ClusterConfig) (live : List String) :
    Undoing.left (source.undoings live) source.metadata.held = source.leavings live := by
  refine List.filter_congr fun token held => ?_
  have hdropped := @token_mem_undoings source live _ rfl token held
  rw [Bool.eq_iff_iff, decide_eq_true_iff, hdropped]
  cases isForeignFinalizer token <;>
    cases (NamespaceList.target source.spec.namespaceList live).all <;> simp

end ClusterConfig

namespace Cluster

/-- What a round without refusals makes of a cluster if its source is on its way out. -/
structure Cleared (source : ClusterConfig) (name : String) (before after : Cluster) : Prop where
  /-- Where the source is cleared from, only copies with the labels of other sources are left. -/
  copies : ∀ ns, source.Clears before.namespaces ns → ∀ copy : Artifact source.spec.kind,
    (after.artifacts source.spec.kind)[(⟨ns, name⟩ : ObjectKey)]? = some copy ↔
      (before.artifacts source.spec.kind)[(⟨ns, name⟩ : ObjectKey)]? = some copy ∧
        (copy.otherOwner? source).isSome
  /-- All other artifacts are as they were. -/
  elsewhere : ∀ (kind : ArtifactKind) (place : ObjectKey),
    (kind = source.spec.kind → place.name = name → ¬ source.Clears before.namespaces place.ns) →
      (after.artifacts kind)[place]? = (before.artifacts kind)[place]?
  /-- So are other sources, and the namespaces. -/
  sources : ∀ key, key ≠ source.metadata.key → after.sources[key]? = before.sources[key]?
  namespaces : after.namespaces = before.namespaces
  /-- The source is gone if it had finalizers and is left with none. -/
  gone : after.sources[source.metadata.key]? = none ↔
    source.metadata.held ≠ [] ∧ source.leavings before.namespaces = []
  /-- If not, it has its finalizers less those that went, and is as it was otherwise. -/
  left : ∀ final, after.sources[source.metadata.key]? = some final →
    final.metadata.held = source.leavings before.namespaces ∧ final.status = source.status ∧
      final.bare = source.bare

variable {source final : ClusterConfig} {before after : Cluster} {name : String}

theorem Departing.cleared
    (h : Departing source before (source.undoings before.namespaces) final after)
    (named : source.metadata.name = some name) : Cleared source name before after := by
  have hname : source.metadata.anyName = name := by
    rw [Metadata.anyName, named]
    rfl
  have hheld : final.metadata.held = source.leavings before.namespaces :=
    h.held.trans (source.left_undoings before.namespaces)
  have hcopies := h.copies
  rw [hname] at hcopies
  refine ⟨fun ns clears copy => ?_, fun kind place spared => ?_, h.spares.sources,
    h.spares.namespaces, ?_, fun other hother => ?_⟩
  · rw [hcopies, copyAfter, if_pos (ClusterConfig.copy_mem_undoings_iff.mpr clears), hname,
      Option.filter_eq_some_iff]
  · by_cases hkind : kind = source.spec.kind
    · subst hkind
      by_cases hplace : place.name = name
      · have hnot := mt ClusterConfig.copy_mem_undoings_iff.mp (spared rfl hplace)
        have hsame := hcopies place.ns
        rw [copyAfter, if_neg hnot, hname, ← hplace] at hsame
        exact hsame
      · exact h.spares.names place (hname ▸ hplace)
    · rw [h.spares.kinds kind hkind]
  · rw [h.stored, hheld]
    by_cases hgone : source.leavings before.namespaces = [] ∧ source.metadata.held ≠ []
    · exact iff_of_true (if_pos hgone) hgone.symm
    · rw [if_neg hgone]
      exact iff_of_false (Option.some_ne_none _) fun hboth => hgone hboth.symm
  · rw [h.stored] at hother
    split at hother
    · cases hother
    · obtain rfl := Option.some.inj hother
      exact ⟨hheld, h.status, h.alike⟩

namespace Deed

variable {lossy : Prop} {base : ClusterConfig} {target : TargetSet} {phase : Phase}
variable {act : Act Cluster}

/-- A status that is written has the namespaces of the target. -/
theorem status_of_onStatus (h : Deed lossy base target phase act) (onStatus : act.onStatus = true) :
    ∃ source, act.call? = some (.updateStatus source) ∧
      source.status = some ⟨target.namespaces⟩ := by
  cases h with
  | record => exact ⟨_, rfl, rfl⟩
  | _ => cases onStatus

/-- What is a deed whatever the target may be puts nothing up, adds no finalizer and writes no
status. -/
theorem of_every_target (h : ∀ target, ∃ phase, Deed lossy base target phase act) :
    act.placed? = none ∧ act.added = [] ∧ act.onStatus = false := by
  obtain ⟨phase, hnone⟩ := h ⟨[], false⟩
  refine ⟨?_, Decidable.not_not.mp fun hadded => ?_, Bool.eq_false_iff.mpr fun hstatus => ?_⟩
  · cases hplaced : act.placed? with
    | none => rfl
    | some place => exact absurd (hnone.covers_of_placed hplaced).2.1 List.not_mem_nil
  · obtain rfl := hnone.phase_of_added hadded
    cases hnone with
    | add _ _ mem => exact List.not_mem_nil mem
    | look hphase => rcases hphase with hphase | hphase <;> cases hphase
    | drop hphase => rcases hphase with hphase | hphase <;> cases hphase
    | record hphase => rcases hphase with hphase | hphase <;> cases hphase
  · obtain ⟨other, hone⟩ := h ⟨[""], false⟩
    obtain ⟨source, hcall, hnames⟩ := hnone.status_of_onStatus hstatus
    obtain ⟨again, hagain, hothers⟩ := hone.status_of_onStatus hstatus
    cases hcall.symm.trans hagain
    cases hnames.symm.trans hothers

end Deed

end Cluster

/-- If no call is refused, the round for a source on its way out leaves of the copies that it looks
for only those with the labels of another source, and everything else in the cluster as it was. It
puts nothing up, adds no finalizer and writes no status. The source is left with the finalizers of
others that its list does not name, in their order, and is gone if it had finalizers and none of
them is left. -/
theorem a_round_for_a_source_on_its_way_out_clears_it {cluster : Cluster} {source : ClusterConfig}
    {name : String} (keyed : cluster.WellKeyed)
    (stored : cluster.sources[source.metadata.key]? = some source)
    (named : source.metadata.name = some name) (leaves : source.isDeleting = true) :
    (∃ action, (Simulation.reconcile { cluster } source.metadata.key).1 = .ok action) ∧
      cluster.Cleared source name (Simulation.reconcile { cluster } source.metadata.key).2.cluster ∧
      ∀ act ∈ Simulation.acts { cluster } (reconcile source.metadata.key),
        act.placed? = none ∧ act.added = [] ∧ act.onStatus = false := by
  have hnamed : source.Named := ⟨name, by rw [ClusterConfig.requireName, named]⟩
  obtain ⟨hok, final, hdeparting⟩ := keyed.teardown stored hnamed leaves
  have hdeeds : ∀ target, InPhases
      (Cluster.Deed (Refusal.Loses fun _ => False) source target) .retiring
      (Simulation.acts { cluster } (reconcile source.metadata.key)) := fun target =>
    (Cluster.teardown_deeds keyed stored Refusal.not_loses_never leaves).simulate
      (Simulation.undisturbed_without_rules cluster)
  exact ⟨hok, hdeparting.cleared named, fun act mem =>
    Cluster.Deed.of_every_target fun target => (hdeeds target).exists_of_mem mem⟩

/-- A source on its way out that went to all namespaces once, and is to go to a single one. -/
def ClusterConfig.parting : ClusterConfig :=
  { ClusterConfig.trial "a" with
    metadata :=
      { name := some "app-config", ns := some "default",
        finalizers := some ["all", "b", "example.com/backup"],
        deletionTimestamp := some Simulation.endOfSources } }

/-- An artifact of its name with the labels of a source of another namespace, or with none. -/
def Artifact.parting (ns : String) (labels : Option (TextMap String)) : Artifact .configMap where
  metadata := { name := some "app-config", ns := some ns, labels }
  parts := {}

/-- A cluster with that source, an artifact that is its own for want of labels, and one of
another source. -/
def Cluster.parting : Cluster :=
  (((({ namespaces := ["a", "c"] } : Cluster).putSource ⟨"default", "app-config"⟩
    .parting).putArtifact (.parting "a" none)).putArtifact
      (.parting "c" (some {(Artifact.sourceLabel, "app-config")})))

/-- It waits for others then, and only the artifact of the other source is left. -/
theorem a_source_on_its_way_out_waits_for_others :
    (∃ final, (Simulation.reconcile { cluster := .parting }
        ⟨"default", "app-config"⟩).2.cluster.sources[
          (⟨"default", "app-config"⟩ : ObjectKey)]? = some final ∧
      final.metadata.held = ["example.com/backup"]) ∧
    ((Simulation.reconcile { cluster := .parting } ⟨"default", "app-config"⟩).2.cluster.artifacts
      .configMap)[(⟨"a", "app-config"⟩ : ObjectKey)]? = none ∧
    ((Simulation.reconcile { cluster := .parting } ⟨"default", "app-config"⟩).2.cluster.artifacts
      .configMap)[(⟨"c", "app-config"⟩ : ObjectKey)]? =
        some ((Artifact.parting "c"
          (some {(Artifact.sourceLabel, "app-config")})).atVersion 3) := by
  have keyed : Cluster.parting.WellKeyed :=
    (((Cluster.keyed_empty _).putSource .parting).putArtifact _).putArtifact _
  obtain ⟨-, hcleared, -⟩ := @a_round_for_a_source_on_its_way_out_clears_it .parting
    (.atVersion .parting 1) "app-config" keyed (by decide +kernel) rfl rfl
  have hclears : ∀ ns ∈ ["a", "c"], ClusterConfig.parting.Clears ["a", "c"] ns := fun ns mem =>
    .inr (.inr ⟨by decide, by decide +kernel, mem⟩)
  refine ⟨?_, ?_, ?_⟩
  · obtain ⟨final, hfinal⟩ := Option.ne_none_iff_exists'.mp
      (mt hcleared.gone.mp fun hboth => absurd hboth.2 (by decide +kernel))
    exact ⟨final, hfinal, (hcleared.left final hfinal).1.trans (by decide +kernel)⟩
  · refine Option.eq_none_iff_forall_ne_some.mpr fun copy hcopy => ?_
    obtain ⟨hbefore, hother⟩ := (hcleared.copies "a" (hclears "a" (by decide)) copy).mp hcopy
    have hfound : (Cluster.parting.artifacts .configMap)[(⟨"a", "app-config"⟩ : ObjectKey)]? =
        some ((Artifact.parting "a" none).atVersion 2) := by decide +kernel
    obtain rfl := Option.some.inj (hfound.symm.trans hbefore)
    exact absurd hother (by decide +kernel)
  · exact (hcleared.copies "c" (hclears "c" (by decide)) _).mpr
      ⟨by decide +kernel, by decide +kernel⟩

end ConfigFanout
