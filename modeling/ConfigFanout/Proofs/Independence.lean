import ConfigFanout.Proofs.Shares
import ConfigFanout.Proofs.Tandem

-- Two rounds for sources that have no share of the cluster in common. Each of them is shadowed
-- by a round that is alone: however the two take turns, what one of them does goes as it goes
-- without the other, up to versions. So the order of their calls does not matter.
namespace ConfigFanout

def Cluster.store : Store Cluster where
  answer := Cluster.answer
  record _ cluster := cluster

namespace Program

variable {α : Type}

theorem Twins.eq_done {program twin : Program α} (h : Twins Eq program twin)
    {result : Except Error α} (hdone : program = .done result) : twin = .done result := by
  cases h with
  | done heq => rw [← hdone, heq]
  | failed error => exact hdone
  | publish | call => cases hdone

theorem Twins.done_eq {program twin : Program α} (h : Twins Eq program twin)
    {result : Except Error α} (hdone : twin = .done result) : program = .done result := by
  cases h with
  | done heq => rw [heq, ← hdone]
  | failed error => exact hdone
  | publish | call => cases hdone

theorem exists_done_of_acts {program : Program α} {cluster : Cluster}
    (h : program.acts Cluster.store cluster = []) : ∃ result, program = .done result := by
  cases program with
  | done result => exact ⟨result, rfl⟩
  | call | publish => cases h

end Program

/-! ## Shares that have nothing in common -/

/-- Two sources that have no share of a cluster in common. -/
structure ClusterConfig.Apart (base other : ClusterConfig) : Prop where
  keys : base.metadata.key ≠ other.metadata.key
  copies : base.metadata.anyName ≠ other.metadata.anyName ∨ base.spec.kind ≠ other.spec.kind

theorem ClusterConfig.Apart.symm {base other : ClusterConfig} (h : base.Apart other) :
    other.Apart base :=
  ⟨h.keys.symm, h.copies.imp Ne.symm Ne.symm⟩

section

variable {base other : ClusterConfig} {cluster after twin : Cluster} {known : Knowledge}

/-- The artifacts of one of two sources are not touched for the other one. -/
theorem Cluster.Spares.copies_eq (h : Cluster.Spares other cluster after) (apart : base.Apart other)
    {place : ObjectKey} (hname : place.name = base.metadata.anyName) :
    (after.artifacts base.spec.kind)[place]? = (cluster.artifacts base.spec.kind)[place]? := by
  by_cases hkind : base.spec.kind = other.spec.kind
  · rw [hkind]
    refine h.names place ?_
    rw [hname]
    exact apart.copies.resolve_right fun hne => hne hkind
  · rw [h.kinds _ hkind]

/-- What a round knows stays current while something is written for the other source. -/
theorem Knowledge.Current.spared (h : known.Current base cluster)
    (spares : Cluster.Spares other cluster after) (apart : base.Apart other)
    (keyed : after.WellKeyed) : known.Current base after where
  keyed := keyed
  own := by
    rw [spares.sources _ apart.keys]
    exact h.own
  hand := by
    rw [spares.sources _ apart.keys]
    exact h.hand
  seen sighting hseen := by
    obtain ⟨kind, place, artifact⟩ := sighting
    obtain ⟨rfl, hname, found⟩ := h.seen _ hseen
    exact ⟨rfl, hname, (spares.copies_eq apart hname).trans found⟩

theorem Cluster.SameShare.spared (h : Cluster.SameShare base cluster twin)
    (spares : Cluster.Spares other cluster after) (apart : base.Apart other) :
    Cluster.SameShare base after twin where
  namespaces := by rw [spares.namespaces, h.namespaces]
  source := by rw [spares.sources _ apart.keys, h.source]
  copies ns := by rw [spares.copies_eq apart rfl, h.copies ns]

end

/-! ## Shadows -/

/-- A round that is alone, on its way. -/
structure Shadow where
  /-- What it has yet to do. -/
  program : Program Action
  cluster : Cluster
  known : Knowledge := {}
  /-- What it has done. -/
  past : List (Act Cluster) := []

/-- A round at work on a cluster where others write too goes as one for the same source that
is alone, and that started in another cluster. -/
structure Shadow.Of (base : ClusterConfig) (origin cluster : Cluster) (program : Program Action)
    (known : Knowledge) (shadow : Shadow) : Prop where
  twins : program.Twins Eq shadow.program
  obeys : program.Obeys (.round base.metadata.key) known
  obeys' : shadow.program.Obeys (.round base.metadata.key) shadow.known
  current : known.Current base cluster
  current' : shadow.known.Current base shadow.cluster
  share : Cluster.SameShare base cluster shadow.cluster
  untouched : known.hand = none →
    shadow.cluster.sources[base.metadata.key]? = cluster.sources[base.metadata.key]?
  run : shadow.program.run Cluster.store shadow.cluster =
    (reconcile base.metadata.key).run Cluster.store origin
  acts : shadow.past ++ shadow.program.acts Cluster.store shadow.cluster =
    (reconcile base.metadata.key).acts Cluster.store origin

/-- Before the source is at hand, a round changes nothing, and neither does a twin. -/
theorem Warranted.twin_unchanged {key : ObjectKey} {known : Knowledge} {request twin : StoreCall}
    (warranted : Warranted key known request) (hnone : known.hand = none)
    (htwin : request.Twin twin) (cluster : Cluster) : (cluster.answer twin).2 = cluster := by
  have hsame := warranted.unchanged hnone cluster
  obtain rfl | rfl := warranted.looks hnone <;> cases htwin <;> exact hsame

namespace Shadow.Of

variable {base other : ClusterConfig} {origin cluster after : Cluster} {known : Knowledge}
  {shadow : Shadow} {program : Program Action}

/-- At the start a round is its own shadow. -/
theorem start (keyed : cluster.WellKeyed)
    (stored : cluster.sources[base.metadata.key]? = some base) :
    Shadow.Of base cluster cluster (reconcile base.metadata.key) {}
      { program := reconcile base.metadata.key, cluster } where
  twins := reconcile_twins _
  obeys := reconcile_obeys _
  obeys' := reconcile_obeys _
  current := .start keyed stored
  current' := .start keyed stored
  share := .refl base cluster
  untouched _ := rfl
  run := rfl
  acts := rfl

/-- The other one may write. -/
theorem spared (h : Shadow.Of base origin cluster program known shadow)
    (spares : Cluster.Spares other cluster after) (apart : base.Apart other)
    (keyed : after.WellKeyed) : Shadow.Of base origin after program known shadow :=
  { h with
    current := h.current.spared spares apart keyed
    share := h.share.spared spares apart
    untouched := fun hnone => by rw [h.untouched hnone, spares.sources _ apart.keys] }

/-- An event is published in both rounds. -/
theorem publish {event : Event} {next : Program Action}
    (h : Shadow.Of base origin cluster (.publish event next) known shadow) :
    ∃ later, Shadow.Of base origin cluster next known later ∧
      later.past = shadow.past ++ [.told event] := by
  obtain ⟨rest, twin, knownAlone, past⟩ := shadow
  obtain ⟨htwins, hobeys, hobeys', hcurrent, hcurrent', hshare, huntouched, hrun, hacts⟩ := h
  cases htwins with
  | @publish _ _ rest hnext =>
    refine ⟨⟨rest, twin, knownAlone, past ++ [.told event]⟩, ?_, rfl⟩
    refine ⟨hnext, hobeys, hobeys', hcurrent, hcurrent', hshare, huntouched, hrun, ?_⟩
    rw [← hacts, List.append_assoc]
    rfl

theorem call {request : StoreCall} {next : Except Error request.Answer → Program Action}
    (h : Shadow.Of base origin cluster (.call request next) known shadow) :
    ∃ later learnt, Shadow.Of base origin (cluster.answer request).2
        (next (cluster.answer request).1) learnt later ∧
      Cluster.Spares base cluster (cluster.answer request).2 ∧
      ∃ act : Act Cluster, act.event? = none ∧ later.past = shadow.past ++ [act] := by
  obtain ⟨rest, twin, knownAlone, past⟩ := shadow
  obtain ⟨htwins, hobeys, hobeys', hcurrent, hcurrent', hshare, huntouched, hrun, hacts⟩ := h
  cases htwins with
  | @call _ other _ nextAlone hsame hnext =>
    obtain ⟨hagree, hshared⟩ := hshare.step hcurrent hcurrent'
      (fun hnothing => huntouched (by rw [hnothing])) hobeys.1 hobeys'.1 hsame
    obtain ⟨hlearnt, hspares⟩ := hcurrent.step hobeys.1 rfl
    obtain ⟨hlearnt', -⟩ := hcurrent'.step hobeys'.1 rfl
    refine ⟨⟨_, _, _, past ++ [.asked twin other (twin.answer other).1]⟩, _,
      ⟨hnext _ _ hagree, hobeys.2 _, hobeys'.2 _, hlearnt, hlearnt', hshared, ?_, hrun, ?_⟩,
      hspares, _, rfl, rfl⟩
    · intro hlater
      have hnone := Knowledge.hand_of_learn hlater
      show (twin.answer other).2.sources[base.metadata.key]? =
        (cluster.answer request).2.sources[base.metadata.key]?
      rw [hobeys.1.unchanged hnone cluster, hobeys.1.twin_unchanged hnone hsame twin]
      exact huntouched hnone
    · rw [← hacts, List.append_assoc]
      rfl

end Shadow.Of

/-! ## Two rounds -/

namespace Tandem

/-- The events that one of the two has published. -/
def events {α : Type} (tandem : Tandem α) (side : Side) : List Event :=
  tandem.acts.filterMap fun (who, act) => if who = side then act.event? else none

/-- Two rounds for sources that have nothing in common, each with a shadow. Each did as much as it
had turns, or is done, and nothing but their shares has changed. -/
structure Apart (bases : Side → ClusterConfig) (origin : Cluster) (schedule : List Side)
    (tandem : Tandem Action) : Prop where
  keyed : tandem.cluster.WellKeyed
  shadows : ∀ side, ∃ known shadow,
    Shadow.Of (bases side) origin tandem.cluster (tandem.programs side) known shadow ∧
    tandem.events side = shadow.past.filterMap Act.event? ∧
    shadow.past.length ≤ schedule.count side ∧
    ((∀ result, tandem.programs side ≠ .done result) →
      schedule.count side ≤ shadow.past.length)
  namespaces : tandem.cluster.namespaces = origin.namespaces
  sources : ∀ key, (∀ side, key ≠ (bases side).metadata.key) →
    tandem.cluster.sources[key]? = origin.sources[key]?
  artifacts : ∀ kind (place : ObjectKey),
    (∀ side, kind = (bases side).spec.kind → place.name ≠ (bases side).metadata.anyName) →
    (tandem.cluster.artifacts kind)[place]? = (origin.artifacts kind)[place]?

@[simp] theorem events_advance_self {α : Type} (tandem : Tandem α) (side : Side)
    (act : Act Cluster) (next : Program α) (cluster : Cluster) :
    (tandem.advance side act next cluster).events side =
      tandem.events side ++ act.event?.toList := by
  unfold events advance
  rw [List.filterMap_append]
  cases hevent : act.event? <;> simp [hevent]

theorem events_advance_of_ne {α : Type} (tandem : Tandem α) {side who : Side} (h : who ≠ side)
    (act : Act Cluster) (next : Program α) (cluster : Cluster) :
    (tandem.advance side act next cluster).events who = tandem.events who := by
  unfold events advance
  rw [List.filterMap_append]
  simp [Ne.symm h]

namespace Apart

variable {bases : Side → ClusterConfig} {origin after : Cluster} {schedule : List Side}
  {tandem : Tandem Action} {side : Side}

theorem start (keyed : origin.WellKeyed)
    (stored : ∀ side, origin.sources[(bases side).metadata.key]? = some (bases side)) :
    Apart bases origin [] (rounds (fun side => (bases side).metadata.key) origin) where
  keyed := keyed
  shadows side := ⟨_, _, .start keyed (stored side), rfl, Nat.le_refl _, fun _ => Nat.le_refl _⟩
  namespaces := rfl
  sources _ _ := rfl
  artifacts _ _ _ := rfl

/-- One of the two does something, as its shadow does, and writes for its source only. -/
theorem advance (h : Apart bases origin schedule tandem)
    (apart : ∀ side, (bases side).Apart (bases side.other)) {act : Act Cluster}
    {next : Program Action} (hrunning : ∀ result, tandem.programs side ≠ .done result)
    (hnext : ∀ known shadow,
      Shadow.Of (bases side) origin tandem.cluster (tandem.programs side) known shadow →
      ∃ learnt later done, Shadow.Of (bases side) origin after next learnt later ∧
        later.past = shadow.past ++ [done] ∧ done.event? = act.event?)
    (spares : Cluster.Spares (bases side) tandem.cluster after) :
    Apart bases origin (schedule ++ [side]) (tandem.advance side act next after) := by
  obtain ⟨known, shadow, hshadow, hevents, hle, hge⟩ := h.shadows side
  obtain ⟨learnt, later, done, hlater, hpast, hdone⟩ := hnext known shadow hshadow
  have keyed : after.WellKeyed := hlater.current.keyed
  refine ⟨keyed, fun who => ?_, spares.namespaces.trans h.namespaces, fun key hkey => ?_,
    fun kind place hplace => ?_⟩
  · rcases who.eq_or_eq_other side with rfl | rfl
    · refine ⟨learnt, later, ?_, ?_, ?_, fun _ => ?_⟩
      · rwa [programs_advance_self]
      · rw [events_advance_self, hevents, hpast, List.filterMap_append, ← hdone]
        cases hevent : done.event? <;> simp [hevent]
      · rw [hpast, List.length_append, List.count_append, List.count_singleton_self]
        exact Nat.add_le_add_right hle 1
      · rw [hpast, List.length_append, List.count_append, List.count_singleton_self]
        exact Nat.add_le_add_right (hge hrunning) 1
    · have hne := side.other_ne
      obtain ⟨known, shadow, hshadow, hevents, hle, hge⟩ := h.shadows side.other
      have hcount : (schedule ++ [side]).count side.other = schedule.count side.other := by
        rw [List.count_append, List.count_singleton, if_neg (by simpa using Ne.symm hne),
          Nat.add_zero]
      refine ⟨known, shadow, ?_, ?_, ?_, ?_⟩
      · have hapart := (apart side).symm
        rw [programs_advance_of_ne _ _ _ _ _ hne]
        exact hshadow.spared spares hapart keyed
      · rw [tandem.events_advance_of_ne hne, hevents]
      · rwa [hcount]
      · rw [hcount, programs_advance_of_ne _ _ _ _ _ hne]
        exact hge
  · exact (spares.sources key (hkey side)).trans (h.sources key hkey)
  · refine Eq.trans ?_ (h.artifacts kind place hplace)
    by_cases hkind : kind = (bases side).spec.kind
    · subst hkind
      exact spares.names place (hplace side rfl)
    · exact congrArg (·[place]?) (spares.kinds kind hkind)

/-- A turn, of a call that is not refused. -/
theorem turn (h : Apart bases origin schedule tandem)
    (apart : ∀ side, (bases side).Apart (bases side.other)) (side : Side) :
    Apart bases origin (schedule ++ [side]) (tandem.turn side none) := by
  unfold Tandem.turn
  cases hprogram : tandem.programs side with
  | done result =>
    refine { h with shadows := fun who => ?_ }
    obtain ⟨known, shadow, hshadow, hevents, hle, hge⟩ := h.shadows who
    refine ⟨known, shadow, hshadow, hevents, ?_, fun hrunning => ?_⟩
    · rw [List.count_append]
      exact Nat.le_add_right_of_le hle
    · have hne : ¬ side = who := by
        rintro rfl
        exact hrunning result hprogram
      rw [List.count_append, List.count_singleton, if_neg (by simpa using hne), Nat.add_zero]
      exact hge hrunning
  | publish event next =>
    refine h.advance apart (by simp [hprogram]) (fun known shadow hshadow => ?_) (.refl _ _)
    rw [hprogram] at hshadow
    obtain ⟨later, hlater, hpast⟩ := hshadow.publish
    exact ⟨known, later, _, hlater, hpast, rfl⟩
  | call request next =>
    obtain ⟨known, shadow, hshadow, -⟩ := h.shadows side
    rw [hprogram] at hshadow
    obtain ⟨-, -, -, hspares, -⟩ := hshadow.call
    refine h.advance apart (by simp [hprogram]) (fun known shadow hshadow => ?_) hspares
    rw [hprogram] at hshadow
    obtain ⟨later, learnt, hlater, -, act, hact, hpast⟩ := hshadow.call
    exact ⟨learnt, later, act, hlater, hpast, hact⟩

theorem turns (h : Apart bases origin schedule tandem)
    (apart : ∀ side, (bases side).Apart (bases side.other)) (more : List Side) :
    Apart bases origin (schedule ++ more) (tandem.turns (more.map (·, none))) := by
  induction more generalizing schedule tandem with
  | nil => rwa [List.append_nil]
  | cons side rest ih =>
    have hrest := ih (h.turn apart side)
    rwa [List.append_assoc] at hrest

/-- One of the two is done once it had as many turns as it needs if it is alone. -/
theorem done_iff (h : Apart bases origin schedule tandem) (side : Side) :
    (∃ result, tandem.programs side = .done result) ↔
      ((reconcile (bases side).metadata.key).acts Cluster.store origin).length ≤
        schedule.count side := by
  obtain ⟨known, shadow, hshadow, -, hle, hge⟩ := h.shadows side
  have hlength := congrArg List.length hshadow.acts
  rw [List.length_append] at hlength
  constructor
  · rintro ⟨result, hdone⟩
    have hrest : (shadow.program.acts Cluster.store shadow.cluster).length = 0 := by
      rw [hshadow.twins.eq_done hdone]
      rfl
    omega
  · intro henough
    by_contra hrunning
    have hcount := hge fun result hdone => hrunning ⟨result, hdone⟩
    have hrest : shadow.program.acts Cluster.store shadow.cluster = [] :=
      List.length_eq_zero_iff.mp (by omega)
    obtain ⟨result, hdone⟩ := Program.exists_done_of_acts hrest
    exact hrunning ⟨result, hshadow.twins.done_eq hdone⟩

/-- One of the two that is done ended as it does if it is alone. -/
theorem ended (h : Apart bases origin schedule tandem) {side : Side}
    {result : Except Error Action} (hdone : tandem.programs side = .done result) :
    result = ((reconcile (bases side).metadata.key).run Cluster.store origin).1 ∧
      tandem.events side = ((reconcile (bases side).metadata.key).acts Cluster.store
        origin).filterMap Act.event? ∧
      Cluster.SameShare (bases side) tandem.cluster
        ((reconcile (bases side).metadata.key).run Cluster.store origin).2 := by
  obtain ⟨known, shadow, hshadow, hevents, -⟩ := h.shadows side
  have hrest := hshadow.twins.eq_done hdone
  have hrun := hshadow.run
  have hacts := hshadow.acts
  rw [hrest] at hrun hacts
  rw [← hrun, ← hacts]
  refine ⟨rfl, ?_, hshadow.share⟩
  rw [hevents]
  exact congrArg _ (List.append_nil _).symm

end Apart

theorem turns_append {α : Type} (tandem : Tandem α)
    (schedule more : List (Side × Option Refusal)) :
    tandem.turns (schedule ++ more) = (tandem.turns schedule).turns more :=
  List.foldl_append ..

/-- One of two programs may have all its turns in a row. -/
theorem turns_in_a_row {α : Type} {program : Program α} {side : Side} {tandem : Tandem α}
    (hprogram : tandem.programs side = program) :
    ∃ count : Nat, (tandem.turns (List.replicate count (side, none))).cluster =
        (program.run Cluster.store tandem.cluster).2 ∧
      (tandem.turns (List.replicate count (side, none))).programs side =
        .done (program.run Cluster.store tandem.cluster).1 ∧
      (tandem.turns (List.replicate count (side, none))).programs side.other =
        tandem.programs side.other := by
  induction program generalizing tandem with
  | done result => exact ⟨0, rfl, hprogram, rfl⟩
  | call request next ih =>
    have hturn : tandem.turn side none = tandem.advance side
        (.asked tandem.cluster request (tandem.cluster.answer request).1)
        (next (tandem.cluster.answer request).1) (tandem.cluster.answer request).2 := by
      unfold turn
      rw [hprogram]
      rfl
    have hnext := tandem.programs_advance_self side
      (.asked tandem.cluster request (tandem.cluster.answer request).1)
      (next (tandem.cluster.answer request).1) (tandem.cluster.answer request).2
    obtain ⟨count, hrest⟩ := ih _ hnext
    rw [programs_advance_of_ne _ _ _ _ _ side.other_ne] at hrest
    refine ⟨count + 1, ?_⟩
    rw [List.replicate_succ, turns, List.foldl_cons, hturn]
    exact hrest
  | publish event next ih =>
    have hturn : tandem.turn side none =
        tandem.advance side (.told event) next tandem.cluster := by
      unfold turn
      rw [hprogram]
    have hnext := tandem.programs_advance_self side (.told event) next tandem.cluster
    obtain ⟨count, hrest⟩ := ih hnext
    rw [programs_advance_of_ne _ _ _ _ _ side.other_ne] at hrest
    refine ⟨count + 1, ?_⟩
    rw [List.replicate_succ, turns, List.foldl_cons, hturn]
    exact hrest

/-- Two rounds may have their turns one after the other. -/
theorem rounds_in_turn (keys : Side → ObjectKey) (cluster : Cluster) (side : Side) :
    ∃ schedule : List Side,
      ((rounds keys cluster).turns (schedule.map (·, none))).cluster =
          ((reconcile (keys side.other)).run Cluster.store
            ((reconcile (keys side)).run Cluster.store cluster).2).2 ∧
        ∀ who, ∃ result,
          ((rounds keys cluster).turns (schedule.map (·, none))).programs who = .done result := by
  have hstart : (rounds keys cluster).programs side = reconcile (keys side) := rfl
  obtain ⟨count, hmiddle, hfirst, hother⟩ := turns_in_a_row hstart
  obtain ⟨count', hlast, hsecond, hleft⟩ := turns_in_a_row hother
  refine ⟨List.replicate count side ++ List.replicate count' side.other, ?_, fun who => ?_⟩
  · rw [List.map_append, List.map_replicate, List.map_replicate, turns_append, hlast, hmiddle]
    rfl
  · rw [List.map_append, List.map_replicate, List.map_replicate, turns_append]
    rcases who.eq_or_eq_other side with rfl | rfl
    · rw [who.other_other] at hleft
      exact ⟨_, hleft.trans hfirst⟩
    · exact ⟨_, hsecond⟩

end Tandem

/-! ## Clusters without versions -/

namespace Cluster

/-- The cluster without the versions of its objects, and without a last version. -/
def sansVersions (cluster : Cluster) : Cluster where
  namespaces := cluster.namespaces
  sources := cluster.sources.map fun _ source => source.sansVersion
  configMaps := cluster.configMaps.map fun _ artifact => artifact.sansVersion
  secrets := cluster.secrets.map fun _ artifact => artifact.sansVersion
  version := 0

theorem sansVersions_eq {cluster twin : Cluster} (namespaces : cluster.namespaces = twin.namespaces)
    (sources : ∀ key : ObjectKey, (cluster.sources[key]?).map ClusterConfig.sansVersion =
      (twin.sources[key]?).map ClusterConfig.sansVersion)
    (artifacts : ∀ kind (place : ObjectKey),
      ((cluster.artifacts kind)[place]?).map Artifact.sansVersion =
        ((twin.artifacts kind)[place]?).map Artifact.sansVersion) :
    cluster.sansVersions = twin.sansVersions := by
  have hsources : cluster.sansVersions.sources = twin.sansVersions.sources := by
    refine Std.ExtTreeMap.ext_getElem? fun key => ?_
    rw [sansVersions, sansVersions, Std.ExtTreeMap.getElem?_map, Std.ExtTreeMap.getElem?_map]
    exact sources key
  have hconfigMaps : cluster.sansVersions.configMaps = twin.sansVersions.configMaps := by
    refine Std.ExtTreeMap.ext_getElem? fun place => ?_
    rw [sansVersions, sansVersions, Std.ExtTreeMap.getElem?_map, Std.ExtTreeMap.getElem?_map]
    exact artifacts .configMap place
  have hsecrets : cluster.sansVersions.secrets = twin.sansVersions.secrets := by
    refine Std.ExtTreeMap.ext_getElem? fun place => ?_
    rw [sansVersions, sansVersions, Std.ExtTreeMap.getElem?_map, Std.ExtTreeMap.getElem?_map]
    exact artifacts .secret place
  unfold sansVersions at *
  simp only [Cluster.mk.injEq]
  exact ⟨namespaces, hsources, hconfigMaps, hsecrets, trivial⟩

end Cluster

namespace Tandem.Apart

variable {bases : Side → ClusterConfig} {origin : Cluster} {schedule schedule' : List Side}
  {tandem tandem' : Tandem Action}

/-- Once both are done, what there is does not depend on the order of the turns. -/
theorem sansVersions_eq (h : Apart bases origin schedule tandem)
    (h' : Apart bases origin schedule' tandem')
    (hdone : ∀ side, ∃ result, tandem.programs side = .done result)
    (hdone' : ∀ side, ∃ result, tandem'.programs side = .done result) :
    tandem.cluster.sansVersions = tandem'.cluster.sansVersions := by
  have hshares : ∀ side, ∃ alone, Cluster.SameShare (bases side) tandem.cluster alone ∧
      Cluster.SameShare (bases side) tandem'.cluster alone := by
    intro side
    obtain ⟨result, hresult⟩ := hdone side
    obtain ⟨result', hresult'⟩ := hdone' side
    exact ⟨_, (h.ended hresult).2.2, (h'.ended hresult').2.2⟩
  refine Cluster.sansVersions_eq (h.namespaces.trans h'.namespaces.symm) (fun key => ?_)
    fun kind place => ?_
  · by_cases hown : ∃ side, key = (bases side).metadata.key
    · obtain ⟨side, rfl⟩ := hown
      obtain ⟨alone, hshare, hshare'⟩ := hshares side
      exact hshare.source.symm.trans hshare'.source
    · have helse : ∀ side, key ≠ (bases side).metadata.key := fun side heq => hown ⟨side, heq⟩
      rw [h.sources key helse, h'.sources key helse]
  · by_cases hown : ∃ side, kind = (bases side).spec.kind ∧
        place.name = (bases side).metadata.anyName
    · obtain ⟨side, rfl, hname⟩ := hown
      obtain ⟨alone, hshare, hshare'⟩ := hshares side
      have hplace : place = ⟨place.ns, (bases side).metadata.anyName⟩ := by rw [← hname]
      rw [hplace]
      exact (hshare.copies place.ns).symm.trans (hshare'.copies place.ns)
    · have helse : ∀ side, kind = (bases side).spec.kind →
          place.name ≠ (bases side).metadata.anyName :=
        fun side hkind hname => hown ⟨side, hkind, hname⟩
      rw [h.artifacts kind place helse, h'.artifacts kind place helse]

end Tandem.Apart

/-! ## The order of the calls does not matter -/

/-- Sources of other names or of other kinds have nothing in common. -/
theorem ClusterConfig.apart_of_named {base other : ClusterConfig}
    (hkeys : base.metadata.key ≠ other.metadata.key) (named : base.metadata.name.isSome)
    (named' : other.metadata.name.isSome)
    (apart : base.metadata.name ≠ other.metadata.name ∨ base.spec.kind ≠ other.spec.kind) :
    base.Apart other := by
  refine ⟨hkeys, apart.imp_left fun hne hsame => hne ?_⟩
  obtain ⟨name, hname⟩ := Option.isSome_iff_exists.mp named
  obtain ⟨name', hname'⟩ := Option.isSome_iff_exists.mp named'
  rw [Metadata.anyName, Metadata.anyName, hname, hname'] at hsame
  rw [hname, hname']
  exact congrArg some hsame

/-- Two rounds for sources that are stored under different keys and differ in their names or in
their kinds do not interfere. In whatever order their calls come, each of them needs as many turns
as if it is alone, and has the same result and the same events; and once both are done, there is,
but for versions, what there is if one comes after the other, in either order. -/
theorem independent_rounds_do_not_interfere {keys : Side → ObjectKey}
    {sources : Side → ClusterConfig} {cluster : Cluster} (keyed : cluster.WellKeyed)
    (stored : ∀ side, cluster.sources[keys side]? = some (sources side))
    (named : ∀ side, (sources side).metadata.name.isSome)
    (hkeys : keys .left ≠ keys .right)
    (apart : (sources .left).metadata.name ≠ (sources .right).metadata.name ∨
      (sources .left).spec.kind ≠ (sources .right).spec.kind)
    (schedule : List Side) :
    let tandem := (Tandem.rounds keys cluster).turns (schedule.map (·, none))
    (∀ side, (∃ result, tandem.programs side = .done result) ↔
      ((reconcile (keys side)).acts Cluster.store cluster).length ≤ schedule.count side) ∧
    (∀ side result, tandem.programs side = .done result →
      result = ((reconcile (keys side)).run Cluster.store cluster).1 ∧
      tandem.events side =
        ((reconcile (keys side)).acts Cluster.store cluster).filterMap Act.event?) ∧
    ((∀ side, ∃ result, tandem.programs side = .done result) → ∀ side,
      tandem.cluster.sansVersions = ((reconcile (keys side.other)).run Cluster.store
        ((reconcile (keys side)).run Cluster.store cluster).2).2.sansVersions) := by
  intro tandem
  obtain rfl : keys = fun side => (sources side).metadata.key :=
    funext fun side => (keyed.sources _ _ (stored side)).symm
  have hleft := ClusterConfig.apart_of_named hkeys (named .left) (named .right) apart
  have hapart : ∀ side : Side, (sources side).Apart (sources side.other) := by
    rintro (_ | _)
    · exact hleft
    · exact hleft.symm
  have hstart := Tandem.Apart.start keyed stored
  have hends : Tandem.Apart sources cluster schedule tandem := hstart.turns hapart schedule
  refine ⟨hends.done_iff, fun side result hdone => ?_, fun hdone side => ?_⟩
  · obtain ⟨hresult, hevents, -⟩ := hends.ended hdone
    exact ⟨hresult, hevents⟩
  · obtain ⟨inTurn, hcluster, hdone'⟩ :=
      Tandem.rounds_in_turn (fun side => (sources side).metadata.key) cluster side
    rw [← hcluster]
    exact hends.sansVersions_eq (hstart.turns hapart inTurn) hdone hdone'

/-- Two sources of one name, of which one is copied into ConfigMaps and one into Secrets. -/
def ClusterConfig.pair : Side → ClusterConfig
  | .left => (ClusterConfig.trial "a,b").atVersion 1
  | .right =>
    { metadata := { name := some "app-config", ns := some "elsewhere", resourceVersion := some "2" }
      spec := { namespaceList := "all", kind := .secret, data := {("k", "v")} } }

def Cluster.pair : Cluster :=
  (Cluster.trial ["a", "b"] "a,b").putSource ⟨"elsewhere", "app-config"⟩
    (ClusterConfig.pair .right)

/-- Where they are stored. -/
def Side.pairKey : Side → ObjectKey
  | .left => ⟨"default", "app-config"⟩
  | .right => ⟨"elsewhere", "app-config"⟩

/-- Their rounds in turn, call by call. -/
def Tandem.pair : Tandem Action :=
  (Tandem.rounds Side.pairKey Cluster.pair).turns
    ((List.replicate 20 [Side.left, Side.right]).flatten.map (·, none))

/-- The two rounds end, and leave what they leave one after the other, in either order. -/
theorem rounds_that_take_turns_do_not_interfere :
    (∀ side, ∃ result, Tandem.pair.programs side = .done result) ∧
    ∀ side, Tandem.pair.cluster.sansVersions =
      ((reconcile (Side.pairKey side.other)).run Cluster.store
        ((reconcile (Side.pairKey side)).run Cluster.store Cluster.pair).2).2.sansVersions := by
  have keyed : Cluster.pair.WellKeyed := (Cluster.keyed_trial _ _).putSource (.pair .right)
  have stored : ∀ side, Cluster.pair.sources[Side.pairKey side]? = some (.pair side) := by
    rintro (_ | _) <;> decide +kernel
  have named : ∀ side, (ClusterConfig.pair side).metadata.name.isSome := by
    rintro (_ | _) <;> rfl
  obtain ⟨hturns, -, hends⟩ := independent_rounds_do_not_interfere keyed stored named (by decide)
    (.inr (by decide)) (List.replicate 20 [Side.left, Side.right]).flatten
  have hdone : ∀ side, ∃ result, Tandem.pair.programs side = .done result := by
    intro side
    refine (hturns side).mpr ?_
    cases side <;> decide +kernel
  exact ⟨hdone, hends hdone⟩

end ConfigFanout
