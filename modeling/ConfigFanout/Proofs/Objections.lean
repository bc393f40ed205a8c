import ConfigFanout.Proofs.Deeds

-- How a round ends when no call is refused: it fails only over a namespace where the source may
-- not have its copy, and the first such namespace of the target says how. No call comes to
-- nothing for any other reason.
namespace ConfigFanout

namespace Holdings

variable {base : ClusterConfig} {holdings other : Holdings base.spec.kind}
  {live namespaces done rest : List String} {ns : String} {error : Error}

/-- What keeps a source from having its copy in a namespace: an artifact of another source in its
place, or that there is no such namespace. -/
def objection? (holdings : Holdings base.spec.kind) (live : List String) (ns : String) :
    Option Error :=
  match holdings.copies ns with
  | some copy => (copy.otherOwner? base).map fun owner =>
    .foreign base.spec.kind.resource ⟨ns, base.metadata.anyName⟩ owner.path
  | none => if ns ∈ live then none else some (.notFound .namespace ⟨"", ns⟩)

theorem objection?_of_found {copy : Artifact base.spec.kind}
    (found : holdings.copies ns = some copy) :
    holdings.objection? live ns = (copy.otherOwner? base).map fun owner =>
      .foreign base.spec.kind.resource ⟨ns, base.metadata.anyName⟩ owner.path := by
  rw [objection?, found]

theorem objection?_of_missing (missing : holdings.copies ns = none) :
    holdings.objection? live ns =
      if ns ∈ live then none else some (.notFound .namespace ⟨"", ns⟩) := by
  rw [objection?, missing]

theorem objection?_congr (h : other.copies ns = holdings.copies ns) :
    other.objection? live ns = holdings.objection? live ns := by
  rw [objection?, objection?, h]

theorem objection?_eq_none (named : base.Named) :
    holdings.objection? live ns = none ↔ holdings.MayBring live ns := by
  cases hcopy : holdings.copies ns with
  | none =>
    rw [objection?_of_missing hcopy, ite_eq_left_iff]
    constructor
    · intro h
      refine ⟨named, fun _ => Decidable.byContradiction fun hno => ?_, fun copy hsome => ?_⟩
      · cases h hno
      · cases hcopy.symm.trans hsome
    · exact fun h hno => absurd (h.live hcopy) hno
  | some copy =>
    rw [objection?_of_found hcopy, Option.map_eq_none_iff]
    constructor
    · refine fun h => ⟨named, fun hnone => ?_, fun found hfound => ?_⟩
      · cases hcopy.symm.trans hnone
      · rwa [← Option.some.inj (hcopy.symm.trans hfound)]
    · exact fun h => h.own copy hcopy

/-- What was brought up to date raises no objection, and all else is as it was. -/
theorem objection?_bring (h : holdings.MayBring live ns) (place : String) :
    (holdings.bring ns).objection? live place = holdings.objection? live place := by
  by_cases hplace : place = ns
  · subst hplace
    rw [(objection?_eq_none h.named).mpr h, objection?_eq_none h.named]
    exact (mayBring_bring h).mpr h
  · refine objection?_congr ?_
    rw [bring, copies_withCopy, if_neg hplace]

/-- Of some namespaces the first ones raise no objection, and the next one raises an error. -/
structure StopsAfter (holdings : Holdings base.spec.kind) (live namespaces done : List String)
    (error : Error) : Prop where
  free : ∀ ns ∈ done, holdings.objection? live ns = none
  next : ∃ ns rest, done ++ ns :: rest = namespaces ∧ holdings.objection? live ns = some error

theorem StopsAfter.cons (h : holdings.MayBring live ns)
    (hstops : (holdings.bring ns).StopsAfter live rest done error) :
    holdings.StopsAfter live (ns :: rest) (ns :: done) error := by
  obtain ⟨hfree, place, others, heq, herror⟩ := hstops
  rw [objection?_bring h] at herror
  refine ⟨List.forall_mem_cons.mpr ⟨(objection?_eq_none h.named).mpr h, fun other mem => ?_⟩,
    place, others, by rw [List.cons_append, heq], herror⟩
  rw [← objection?_bring h]
  exact hfree other mem

/-- What is known of the copies in the namespaces is all that matters. -/
theorem StopsAfter.congr (hstops : other.StopsAfter live namespaces done error)
    (h : ∀ ns ∈ namespaces, other.copies ns = holdings.copies ns) :
    holdings.StopsAfter live namespaces done error := by
  obtain ⟨hfree, place, others, rfl, herror⟩ := hstops
  refine ⟨fun ns mem => ?_, place, others, rfl, ?_⟩
  · rw [← objection?_congr (h ns (List.mem_append_left _ mem))]
    exact hfree ns mem
  · rwa [← objection?_congr (h place (List.mem_append_right _ List.mem_cons_self))]

end Holdings

namespace Cluster

variable {base source : ClusterConfig} {origin cluster : Cluster} {target : TargetSet}
  {holdings : Holdings base.spec.kind} {ns : String}

/-- A source may have its copy in a namespace where the artifact in its place belongs to no other
source, or where there is none yet in a namespace that exists. -/
theorem objection?_holdings_eq_none (cluster : Cluster) (base : ClusterConfig) (ns : String) :
    (cluster.holdings base).objection? cluster.namespaces ns = none ↔
      (∃ artifact : Artifact base.spec.kind,
        (cluster.artifacts base.spec.kind)[(⟨ns, base.metadata.anyName⟩ : ObjectKey)]? =
          some artifact ∧ artifact.otherOwner? base = none) ∨
      (cluster.artifacts base.spec.kind)[(⟨ns, base.metadata.anyName⟩ : ObjectKey)]? = none ∧
        ns ∈ cluster.namespaces := by
  have hcopies := cluster.copies_holdings base ns
  cases hfound : (cluster.artifacts base.spec.kind)[(⟨ns, base.metadata.anyName⟩ : ObjectKey)]? with
  | none =>
    rw [hfound] at hcopies
    rw [Holdings.objection?_of_missing hcopies]
    simp
  | some artifact =>
    rw [hfound] at hcopies
    rw [Holdings.objection?_of_found hcopies, Option.map_eq_none_iff,
      Artifact.otherOwner?_sansVersion]
    simp

namespace Underway

/-- Bringing a copy up to date fails with the objection that there is. -/
theorem synchronize_stops (h : Underway base origin holdings source cluster)
    (named : base.Named) (ns : String) :
    (source.synchronize base.spec.kind ns).Ensures (faulty fun _ => False) cluster
      (fun _ _ => True)
      fun error _ => holdings.objection? origin.namespaces ns = some error := by
  obtain ⟨name, hname⟩ := named
  have hcopies := h.copies_eq ns
  unfold ClusterConfig.synchronize
  rw [ClusterConfig.requireName_of_alike h.alike, hname, Program.ofExcept_ok, pure_bind,
    Program.ensures_bind, Program.ensures_attempt]
  obtain rfl := ClusterConfig.anyName_of_requireName hname
  -- Where an artifact was found the labels decide, and otherwise the namespace does. The writes
  -- that follow fit what was found, so they cannot fail for any other reason.
  refine cluster.getArtifact_ensures base.spec.kind _ ?_ ?_ fun _ _ hno => hno.elim
  · intro existing found
    rw [found] at hcopies
    rw [Holdings.objection?_of_found hcopies.symm, Artifact.otherOwner?_sansVersion,
      ← Artifact.otherOwner?_of_alike _ h.alike]
    dsimp only
    cases hother : existing.otherOwner? source with
    | some owner => rfl
    | none =>
      dsimp only
      cases hrevise : source.revise existing with
      | none => trivial
      | some revised =>
        obtain ⟨hkey, hversion⟩ := existing.revise_eq_some hrevise
        have hstored : (cluster.artifacts base.spec.kind)[revised.metadata.key]? =
            some existing := by
          rw [hkey, h.reaches.keyed.artifacts _ _ existing found]
          exact found
        dsimp only
        rw [Program.ensures_bind, Program.ensures_discard]
        refine Program.ensures_ask_faulty _ (fun _ _ _ => trivial) ?_ fun _ hno => hno.elim
        intro error after ha
        rw [answer_replaceArtifact hstored hversion.symm] at ha
        cases ha
  · intro missing
    rw [missing] at hcopies
    rw [Holdings.objection?_of_missing hcopies.symm, ← h.reaches.spares.namespaces]
    dsimp only
    rw [if_pos (show (Error.notFound _ _).isNotFound = true from rfl), Program.ensures_bind,
      Program.ensures_discard]
    refine Program.ensures_ask_faulty _ (fun _ _ _ => trivial) ?_ fun _ hno => hno.elim
    intro error after ha
    rw [← ClusterConfig.newCopy] at ha
    by_cases live : ns ∈ cluster.namespaces
    · have hmissing : (cluster.artifacts base.spec.kind)[(source.newCopy base.spec.kind
          base.metadata.anyName ns).metadata.key]? = none := missing
      rw [answer_createArtifact hmissing live] at ha
      cases ha
    · have homeless : (source.newCopy base.spec.kind base.metadata.anyName ns).metadata.key.ns ∉
          cluster.namespaces := live
      rw [answer_createArtifact_homeless homeless] at ha
      cases ha
      exact if_neg live

/-- Of some namespaces copies are brought up to date before the first objection. -/
theorem copyTo_stops (h : Underway base origin holdings source cluster) (named : base.Named)
    (namespaces : List String) :
    (source.copyTo namespaces).Ensures (faulty fun _ => False) cluster (fun _ _ => True)
      fun error after => ∃ done,
        holdings.StopsAfter origin.namespaces namespaces done error ∧
        origin.Reaches base (holdings.brought done) after := by
  unfold ClusterConfig.copyTo
  rw [ClusterConfig.spec_of_alike h.alike]
  induction namespaces generalizing holdings cluster with
  | nil => exact trivial
  | cons ns rest ih =>
    rw [List.mapM_cons, bind_assoc]
    refine ((h.synchronize_ensures ns).and (h.synchronize_stops named ns)).bind ?_ ?_
    · rintro synced after ⟨⟨hns, hafter⟩, -⟩
      rw [pure_bind]
      refine (ih hafter).bind (fun _ _ _ => trivial) ?_
      rintro error after ⟨done, hstops, hreaches⟩
      exact ⟨ns :: done, hstops.cons hns, hreaches⟩
    · rintro error after ⟨⟨hreaches, -⟩, herror⟩
      exact ⟨[], ⟨by simp, ns, rest, rfl, herror⟩, hreaches⟩

/-- A round without refusals fails over an objection only. -/
theorem apply_stops (h : Underway base origin holdings source cluster)
    (stays : base.isDeleting = false) (named : base.Named)
    (htarget : NamespaceList.target base.spec.namespaceList origin.namespaces = target) :
    source.apply.Ensures (faulty fun _ => False) cluster (fun _ _ => True)
      fun error after => ∃ done,
        holdings.StopsAfter origin.namespaces target.namespaces done error ∧
        origin.Reaches base (((holdings.retired target).guarded target).brought done) after := by
  -- Every other stretch of the round fails only if a call is refused.
  have himpossible : ¬ Refusal.Possible fun _ => False := fun ⟨_, hno⟩ => hno
  unfold ClusterConfig.apply
  rw [ClusterConfig.spec_of_alike h.alike]
  refine (cluster.resolve_ensures _).bind ?_ fun _ _ hfail => absurd hfail.2 himpossible
  rintro resolved after ⟨rfl, rfl⟩
  rw [h.reaches.spares.namespaces, htarget]
  refine (h.retire_ensures stays target).bind ?_ ?_
  rotate_left
  · rintro error after ⟨-, hpossible | ⟨-, hno⟩⟩
    · exact absurd hpossible himpossible
    · exact absurd named hno
  rintro ⟨stored, pruned⟩ after ⟨-, middle, hretired, hmiddle⟩
  obtain rfl := hretired Refusal.not_loses_never
  refine (hmiddle.addTokens_ensures stays target).bind ?_
    fun _ _ hfail => absurd hfail.2 himpossible
  intro stored after hguarded
  refine ((hguarded.copyTo_ensures target.namespaces).and
    (hguarded.copyTo_stops named target.namespaces)).bind ?_ ?_
  · rintro outcomes after ⟨⟨-, hbrought⟩, -⟩
    dsimp only
    rw [← apply_ite (· >>= _)]
    refine (hbrought.settle_ensures stays target).bind ?_
      fun _ _ hfail => absurd hfail.2 himpossible
    intro stored after hsettled
    rw [Program.ensures_bind, Program.ensures_discard]
    exact (hsettled.recordProcessed_ensures target.namespaces).mono (fun _ _ _ => trivial)
      fun _ _ hfail => absurd hfail.2 himpossible
  · rintro error after ⟨-, done, hstops, hreaches⟩
    refine ⟨done, hstops.congr fun ns mem => ?_, hreaches⟩
    rw [Holdings.copies_guarded, Holdings.copies_retired mem]

end Underway

/-- A whole round for a source that stays fails over an objection only. -/
theorem reconcile_stops (keyed : cluster.WellKeyed)
    (stored : cluster.sources[base.metadata.key]? = some base) (stays : base.isDeleting = false)
    (named : base.Named)
    (htarget : NamespaceList.target base.spec.namespaceList cluster.namespaces = target) :
    (reconcile base.metadata.key).Traces (faulty fun _ => False) cluster
      fun _ result after => ∀ error, result = .error error → ∃ done,
        (cluster.holdings base).StopsAfter cluster.namespaces target.namespaces done error ∧
        cluster.Reaches base
          ((((cluster.holdings base).retired target).guarded target).brought done) after := by
  have hround : base.round.Ensures (faulty fun _ => False) cluster (fun _ _ => True)
      fun error after => ∃ done,
        (cluster.holdings base).StopsAfter cluster.namespaces target.namespaces done error ∧
        cluster.Reaches base
          ((((cluster.holdings base).retired target).guarded target).brought done) after := by
    unfold ClusterConfig.round
    rw [stays, if_neg Bool.false_ne_true]
    exact ((Underway.start keyed stored rfl).apply_stops stays named htarget).bind
      (fun _ _ _ => trivial) fun _ _ hfail => hfail
  refine reconcile_traces stored (attend_traces (hround.traces.mono ?_))
    (fun hloses => absurd hloses Refusal.not_loses_never) fun ⟨_, hno⟩ => hno.elim
  rintro acts (failure | report) after hend error herror
  · cases herror
    exact hend
  · cases herror

/-! ## Calls that come to nothing -/

/-- The calls of a round that come to nothing where none is refused, each with its error: a look
at a copy that is not there, and a new copy for a namespace that is not there. -/
inductive FindsNothing (base : ClusterConfig) : StoreCall → Error → Prop
  | copy {ns : String} : FindsNothing base
    (.getArtifact base.spec.kind ⟨ns, base.metadata.anyName⟩)
    (.notFound base.spec.kind.resource ⟨ns, base.metadata.anyName⟩)
  | home {ns : String} : FindsNothing base
    (.createArtifact base.spec.kind (base.newCopy base.spec.kind base.metadata.anyName ns))
    (.notFound .namespace ⟨"", ns⟩)

/-- The calls of a round fit what is stored: sources and artifacts are written with the versions
that they have there, and none is put up twice. -/
theorem Deed.findsNothing {lossy : Prop} {phase : Phase} {request : StoreCall} {error : Error}
    (h : Deed lossy base target phase (.asked cluster request (.error error)))
    (hkeeps : ¬ lossy) (answered : (cluster.answer request).1 = .error error) :
    FindsNothing base request error := by
  have hfits : ∀ {value : request.Answer} {after : Cluster},
      cluster.answer request = (.ok value, after) → FindsNothing base request error := by
    intro value after ha
    rw [ha] at answered
    cases answered
  have hstored : ∀ {source updated : ClusterConfig}, cluster.AtHand base source →
      updated.metadata.key = source.metadata.key →
      cluster.sources[updated.metadata.key]? = some source := by
    intro source updated hand hkey
    rw [hkey, ClusterConfig.key_of_alike hand.alike]
    exact hand.stored
  cases h with
  | fetch stored => exact hfits (answer_getSource stored)
  | list => cases answered
  | look =>
    rw [answer_getArtifact, find] at answered
    split at answered
    · cases answered
    · cases answered
      exact .copy
  | take found => exact hfits (answer_deleteArtifact found)
  | drop _ hand => exact hfits (answer_updateSource (hstored hand rfl) rfl)
  | add hand => exact hfits (answer_updateSource (hstored hand rfl) rfl)
  | @create _ ns _ _ _ missing =>
    by_cases live : ns ∈ cluster.namespaces
    · exact hfits (answer_createArtifact (missing.resolve_right hkeeps) live)
    · have homeless : (base.newCopy base.spec.kind base.metadata.anyName ns).metadata.key.ns ∉
          cluster.namespaces := live
      rw [answer_createArtifact_homeless homeless] at answered
      cases answered
      exact .home
  | replace _ found _ hrevise hkey =>
    exact hfits (answer_replaceArtifact (by rwa [hkey]) (Artifact.revise_eq_some _ hrevise).2.symm)
  | record _ hand => exact hfits (answer_updateStatus (hstored hand rfl))

end Cluster

/-- Whether a call got the answer of the cluster that it found. -/
def Act.Answered : Act Cluster → Prop
  | .asked cluster request answer => (cluster.answer request).1 = answer
  | .told _ => True

/-- Where no call is refused, each is answered by the cluster. -/
theorem Program.always_answered {α : Type} (program : Program α) (cluster : Cluster) :
    program.Always (Cluster.faulty fun _ => False) cluster Act.Answered := by
  induction program generalizing cluster with
  | done result => exact always_done result
  | call request next ih =>
    rintro answer after (ha | ⟨_, hno, -⟩)
    · exact ⟨congrArg Prod.fst ha.symm, ih answer after⟩
    · exact hno.elim
  | publish event next ih => exact ⟨trivial, ih cluster⟩

namespace Cluster

variable {base : ClusterConfig} {origin cluster after : Cluster} {target : TargetSet}
  {done : List String} {error : Error}

/-- The copies before the first objection are up to date by then. -/
theorem Reaches.upToDate (h : origin.Reaches base
      ((((origin.holdings base).retired target).guarded target).brought done) after)
    (named : base.Named) (hstops : (origin.holdings base).StopsAfter origin.namespaces
      target.namespaces done error) {ns : String} (mem : ns ∈ done) : after.UpToDate base ns := by
  obtain ⟨place, rest, heq, -⟩ := hstops.next
  have hmay : ∀ ns ∈ done, (((origin.holdings base).retired target).guarded target).MayBring
      origin.namespaces ns := by
    intro ns mem
    rw [Holdings.mayBring_guarded, Holdings.mayBring_retired (heq ▸ List.mem_append_left _ mem),
      ← Holdings.objection?_eq_none named]
    exact hstops.free ns mem
  have hcopy := Holdings.copies_brought hmay ns
  rw [if_pos mem, ← h.holds] at hcopy
  exact upToDate_of_copies hcopy (hmay ns mem).own

/-- Without refusals every call of a round for a stored source fits what is stored. -/
theorem WellKeyed.findsNothing (keyed : cluster.WellKeyed)
    (stored : cluster.sources[base.metadata.key]? = some base) {state : Cluster}
    {request : StoreCall}
    (failed : .asked state request (.error error) ∈
      Simulation.acts { cluster } (reconcile base.metadata.key)) :
    FindsNothing base request error := by
  obtain ⟨target, htarget⟩ :
      ∃ target, NamespaceList.target base.spec.namespaceList cluster.namespaces = target :=
    ⟨_, rfl⟩
  have hdeeds : (reconcile base.metadata.key).Traces (faulty fun _ => False) cluster
      fun acts _ _ =>
        InPhases (Deed (Refusal.Loses fun _ => False) base target) .retiring acts := by
    cases hleaves : base.isDeleting with
    | true => exact teardown_deeds keyed stored Refusal.not_loses_never hleaves
    | false => exact reconcile_deeds keyed stored hleaves htarget
  have hboth : InPhases _ _ _ ∧ ∀ act ∈ _, Act.Answered act :=
    Program.Traces.simulate (hdeeds.and (Program.always_answered _ cluster).traces)
      (Simulation.undisturbed_without_rules cluster)
  obtain ⟨phase, hdeed⟩ := hboth.1.exists_of_mem failed
  exact hdeed.findsNothing Refusal.not_loses_never (hboth.2 _ failed)

end Cluster

/-- Without refusals a round for a source that stays succeeds if the source may have its copy in
each namespace of its target. Otherwise it fails over the first one where it may not, when the
copies in those before it are up to date. A round for a source on its way out succeeds. The only
calls that come to nothing are looks at copies that are not there, and new copies for namespaces
that are not there. -/
theorem a_round_without_refusals_fails_at_the_first_objection {cluster : Cluster}
    {key : ObjectKey} {source : ClusterConfig} {target : TargetSet} (keyed : cluster.WellKeyed)
    (stored : cluster.sources[key]? = some source) (named : source.Named)
    (htarget : NamespaceList.target source.spec.namespaceList cluster.namespaces = target) :
    (source.isDeleting = false →
      ((∃ action, (Simulation.reconcile { cluster } key).1 = .ok action) ↔
        ∀ ns ∈ target.namespaces,
          (∃ artifact : Artifact source.spec.kind,
            (cluster.artifacts source.spec.kind)[(⟨ns, source.metadata.anyName⟩ : ObjectKey)]? =
              some artifact ∧ artifact.otherOwner? source = none) ∨
          (cluster.artifacts source.spec.kind)[(⟨ns, source.metadata.anyName⟩ : ObjectKey)]? =
            none ∧ ns ∈ cluster.namespaces) ∧
      ∀ error, (Simulation.reconcile { cluster } key).1 = .error error → ∃ done,
        (cluster.holdings source).StopsAfter cluster.namespaces target.namespaces done error ∧
        ∀ ns ∈ done, (Simulation.reconcile { cluster } key).2.cluster.UpToDate source ns) ∧
    (source.isDeleting = true → ∃ action, (Simulation.reconcile { cluster } key).1 = .ok action) ∧
    ∀ state request error,
      .asked state request (.error error) ∈ Simulation.acts { cluster } (reconcile key) →
        Cluster.FindsNothing source request error := by
  obtain rfl := keyed.sources key source stored
  have undisturbed := Simulation.undisturbed_without_rules cluster
  refine ⟨fun stays => ?_, fun leaves => (keyed.teardown stored named leaves).1,
    fun state request error failed => keyed.findsNothing stored failed⟩
  have hstops : ∀ error, (Simulation.reconcile { cluster } source.metadata.key).1 = .error error →
      _ := (Cluster.reconcile_stops keyed stored stays named htarget).simulate undisturbed
  refine ⟨⟨?_, fun hall => ?_⟩, fun error herror => ?_⟩
  · rintro ⟨action, hok⟩ ns mem
    obtain ⟨hfeasible, -⟩ := undisturbed.reconcile_ok Refusal.not_loses_never keyed stored rfl
      stays htarget hok
    rw [← Cluster.objection?_holdings_eq_none, Holdings.objection?_eq_none named]
    exact hfeasible.bring ns mem
  · cases hresult : (Simulation.reconcile { cluster } source.metadata.key).1 with
    | ok action => exact ⟨action, rfl⟩
    | error error =>
      obtain ⟨done, hstops, -⟩ := hstops error hresult
      obtain ⟨ns, rest, heq, herror⟩ := hstops.next
      have mem : ns ∈ target.namespaces :=
        heq ▸ List.mem_append_right _ List.mem_cons_self
      rw [(Cluster.objection?_holdings_eq_none cluster source ns).mpr (hall ns mem)] at herror
      cases herror
  · obtain ⟨done, hstops, hreaches⟩ := hstops error herror
    exact ⟨done, hstops, fun ns mem => hreaches.upToDate named hstops mem⟩

/-- A round into two namespaces stops at the one that is not there. -/
theorem a_round_stops_at_a_namespace_that_is_missing :
    (Simulation.reconcile { cluster := .trial ["a"] "a,b" } ⟨"default", "app-config"⟩).1 =
        .error (.notFound .namespace ⟨"", "b"⟩) ∧
      ∃ done, ((Cluster.trial ["a"] "a,b").holdings
          ((ClusterConfig.trial "a,b").atVersion 1)).StopsAfter ["a"] ["a", "b"] done
            (.notFound .namespace ⟨"", "b"⟩) ∧
        ∀ ns ∈ done, (Simulation.reconcile { cluster := .trial ["a"] "a,b" }
          ⟨"default", "app-config"⟩).2.cluster.UpToDate
            ((ClusterConfig.trial "a,b").atVersion 1) ns := by
  have herror : (Simulation.reconcile { cluster := .trial ["a"] "a,b" }
      ⟨"default", "app-config"⟩).1 = .error (.notFound .namespace ⟨"", "b"⟩) := by decide +kernel
  refine ⟨herror, ?_⟩
  exact ((@a_round_without_refusals_fails_at_the_first_objection (.trial ["a"] "a,b")
    ⟨"default", "app-config"⟩ ((ClusterConfig.trial "a,b").atVersion 1) ⟨["a", "b"], false⟩
    (Cluster.keyed_trial _ _) (by decide +kernel) ⟨"app-config", rfl⟩ (by decide +kernel)).1
      rfl).2 _ herror

end ConfigFanout
