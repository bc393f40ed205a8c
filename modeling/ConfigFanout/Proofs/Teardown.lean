import ConfigFanout.Proofs.Runs

-- A round for a source on its way out. What it does is a fixed list of steps, each of which
-- takes one copy away or drops one token. A round that is cut short has taken the first few
-- of them.
namespace ConfigFanout

/-! ## Steps -/

/-- A step of taking a source down. -/
inductive Undoing where
  /-- The copy in a namespace is taken away, unless it belongs to another source. -/
  | copy (ns : String)
  /-- A token is dropped. -/
  | token (token : String)
  deriving DecidableEq

namespace Undoing

/-- The copy in each namespace goes, and the token of the namespace with it. -/
def clearing (namespaces : List String) : List Undoing :=
  namespaces.flatMap fun ns => [.copy ns, .token ns]

/-- The copies in all namespaces go, then the token for all namespaces, then some others. -/
def sweeping (live tokens : List String) : List Undoing :=
  live.map .copy ++ .token everyToken :: tokens.map .token

/-- The tokens that are left after some steps. -/
def left (steps : List Undoing) (tokens : List String) : List String :=
  tokens.filter fun token => .token token ∉ steps

variable {steps : List Undoing} {tokens namespaces live : List String} {ns token : String}

@[simp] theorem mem_left : token ∈ left steps tokens ↔ token ∈ tokens ∧ .token token ∉ steps := by
  simp [left]

theorem left_append (done steps : List Undoing) (tokens : List String) :
    left (done ++ steps) tokens = left steps (left done tokens) := by
  simp only [left, List.filter_filter, List.mem_append, not_or, Bool.decide_and]
  congr 1
  funext token
  rw [Bool.and_comm]

@[simp] theorem left_copy (ns : String) (tokens : List String) :
    left [.copy ns] tokens = tokens := by
  simp [left]

theorem left_token (token : String) (tokens : List String) :
    left [.token token] tokens = tokens.filter (· ≠ token) := by
  simp [left]

@[simp] theorem copy_mem_clearing : copy ns ∈ clearing namespaces ↔ ns ∈ namespaces := by
  simp [clearing]

@[simp] theorem token_mem_clearing : .token token ∈ clearing namespaces ↔ token ∈ namespaces := by
  simp [clearing]

theorem clearing_append_cons (before after : List String) (ns : String) :
    clearing (before ++ ns :: after) =
      (clearing before ++ [.copy ns]) ++ .token ns :: clearing after := by
  simp [clearing]

@[simp] theorem copy_mem_sweeping : copy ns ∈ sweeping live tokens ↔ ns ∈ live := by
  simp [sweeping]

@[simp] theorem token_mem_sweeping :
    .token token ∈ sweeping live tokens ↔ token = everyToken ∨ token ∈ tokens := by
  simp [sweeping]

/-- A step that was taken comes with all those that are to be taken before it. -/
theorem mem_of_taken {done rest before after : List Undoing} {step : Undoing}
    (heq : done ++ rest = before ++ after) (taken : step ∈ done)
    (fresh : step ∉ before) : ∀ earlier ∈ before, earlier ∈ done := by
  rcases List.append_eq_append_iff.mp heq with ⟨between, rfl, -⟩ | ⟨between, rfl, -⟩
  · exact absurd (List.mem_append_left _ taken) fresh
  · exact fun earlier mem => List.mem_append_left _ mem

end Undoing

/-- The steps of a round for a source on its way out. The namespaces of its list come first,
then those whose tokens it holds. If it still holds the token for all namespaces after that,
all of them come. -/
def ClusterConfig.undoings (source : ClusterConfig) (live : List String) : List Undoing :=
  let target := NamespaceList.target source.spec.namespaceList live
  if target.all then Undoing.sweeping target.namespaces source.namespaceTokens
  else
    Undoing.clearing
      (target.namespaces ++ NamespaceList.stale target.namespaces source.namespaceTokens) ++
    if source.holds everyToken && !target.namespaces.contains everyToken then
      Undoing.sweeping live []
    else []

/-- Every token that is held goes, unless it looks like a finalizer of others and is no entry
of an explicit list. -/
theorem ClusterConfig.token_mem_undoings {source : ClusterConfig} {live : List String}
    {target : TargetSet} (htarget : NamespaceList.target source.spec.namespaceList live = target)
    {token : String} (held : token ∈ source.metadata.held) :
    .token token ∈ source.undoings live ↔
      (isForeignFinalizer token = true → target.all = false ∧ token ∈ target.namespaces) := by
  have hevery : isForeignFinalizer everyToken = false := by decide
  have htokens : token ∈ source.namespaceTokens ↔
      token ≠ everyToken ∧ isForeignFinalizer token = false := by
    simp [ClusterConfig.namespaceTokens, held]
  unfold ClusterConfig.undoings
  rw [htarget]
  dsimp only
  by_cases hall : target.all
  · rw [if_pos hall, Undoing.token_mem_sweeping, htokens]
    by_cases htoken : token = everyToken
    · simp [htoken, hevery]
    · simp [htoken, hall]
  · rw [if_neg hall, List.mem_append, Undoing.token_mem_clearing, List.mem_append,
      NamespaceList.mem_stale, htokens]
    by_cases hlisted : token ∈ target.namespaces
    · simp [hlisted, hall]
    · by_cases htoken : token = everyToken
      · subst htoken
        simp [hlisted, hevery, ClusterConfig.holds, held]
      · by_cases hforeign : isForeignFinalizer token = true
        · simp only [hlisted, hforeign]
          split <;> simp [htoken]
        · simp [hlisted, htoken, hforeign]

/-- The copies in all namespaces of the list go. -/
theorem ClusterConfig.copy_mem_undoings {source : ClusterConfig} {live : List String}
    {target : TargetSet} (htarget : NamespaceList.target source.spec.namespaceList live = target)
    {ns : String} (mem : ns ∈ target.namespaces) : .copy ns ∈ source.undoings live := by
  unfold ClusterConfig.undoings
  rw [htarget]
  dsimp only
  split
  · exact Undoing.copy_mem_sweeping.mpr mem
  · exact List.mem_append_left _ (Undoing.copy_mem_clearing.mpr (List.mem_append_left _ mem))

namespace Cluster

/-- The copy in a namespace after some steps. -/
def copyAfter (cluster : Cluster) (base : ClusterConfig) (steps : List Undoing) (ns : String) :
    Option (Artifact base.spec.kind) :=
  let copy := (cluster.artifacts base.spec.kind)[(⟨ns, base.metadata.anyName⟩ : ObjectKey)]?
  if .copy ns ∈ steps then copy.filter fun artifact => (artifact.otherOwner? base).isSome
  else copy

theorem copyAfter_copy (cluster : Cluster) (base : ClusterConfig) (done : List Undoing)
    (ns other : String) :
    cluster.copyAfter base (done ++ [.copy ns]) other =
      if other = ns then
        (cluster.copyAfter base done ns).filter fun artifact => (artifact.otherOwner? base).isSome
      else cluster.copyAfter base done other := by
  unfold copyAfter
  by_cases hns : other = ns
  · subst hns
    by_cases hdone : .copy other ∈ done
    · simp [hdone, Option.filter_filter]
    · simp [hdone]
  · simp [hns]

theorem copyAfter_token (cluster : Cluster) (base : ClusterConfig) (done : List Undoing)
    (token ns : String) :
    cluster.copyAfter base (done ++ [.token token]) ns = cluster.copyAfter base done ns := by
  simp [copyAfter]

/-- Some steps of taking a source down have been taken since `origin`. The source at hand is as
it is stored, or was stored last: it is gone once its last token was dropped. -/
structure Departing (base : ClusterConfig) (origin : Cluster) (done : List Undoing)
    (source : ClusterConfig) (cluster : Cluster) : Prop where
  alike : source.bare = base.bare
  status : source.status = base.status
  held : source.metadata.held = Undoing.left done base.metadata.held
  stored : cluster.sources[base.metadata.key]? =
    if source.metadata.held = [] ∧ base.metadata.held ≠ [] then none else some source
  keyed : cluster.WellKeyed
  spares : Spares base origin cluster
  copies : ∀ ns, (cluster.artifacts base.spec.kind)[(⟨ns, base.metadata.anyName⟩ : ObjectKey)]? =
    origin.copyAfter base done ns

/-- A round that was to take some steps has taken the first few of them, because a call was
refused or because the source has no name. -/
def CutShort (may : Refusal → Prop) (base : ClusterConfig) (origin : Cluster)
    (done steps : List Undoing) (after : Cluster) : Prop :=
  (∃ part rest source, part ++ rest = steps ∧ Departing base origin (done ++ part) source after) ∧
    (Refusal.Possible may ∨ ¬ base.Named)

variable {base source : ClusterConfig} {origin cluster after : Cluster}
  {done steps later : List Undoing} {may : Refusal → Prop}

theorem CutShort.of_first (h : CutShort may base origin done steps after) :
    CutShort may base origin done (steps ++ later) after := by
  obtain ⟨⟨part, rest, source, rfl, hafter⟩, hcause⟩ := h
  exact ⟨⟨part, rest ++ later, source, (List.append_assoc ..).symm, hafter⟩, hcause⟩

theorem CutShort.of_later (h : CutShort may base origin (done ++ steps) later after) :
    CutShort may base origin done (steps ++ later) after := by
  obtain ⟨⟨part, rest, source, rfl, hafter⟩, hcause⟩ := h
  rw [List.append_assoc] at hafter
  exact ⟨⟨steps ++ part, rest, source, List.append_assoc .., hafter⟩, hcause⟩

namespace Departing

theorem start (keyed : cluster.WellKeyed)
    (stored : cluster.sources[base.metadata.key]? = some base) :
    Departing base cluster [] base cluster where
  alike := rfl
  status := rfl
  held := (List.filter_eq_self.mpr (by simp)).symm
  stored := by rw [if_neg fun hboth => hboth.2 hboth.1, stored]
  keyed := keyed
  spares := Spares.refl base cluster
  copies ns := by rw [copyAfter, if_neg List.not_mem_nil]

theorem cutShort (h : Departing base origin done source cluster) (steps : List Undoing)
    (hcause : Refusal.Possible may ∨ ¬ base.Named) :
    CutShort may base origin done steps cluster :=
  ⟨⟨[], steps, source, rfl, by rwa [List.append_nil]⟩, hcause⟩

theorem keepCopy (h : Departing base origin done source cluster) {ns : String}
    (hkept : (cluster.artifacts base.spec.kind)[(⟨ns, base.metadata.anyName⟩ : ObjectKey)]? =
      ((cluster.artifacts base.spec.kind)[(⟨ns, base.metadata.anyName⟩ : ObjectKey)]?).filter
        fun artifact => (artifact.otherOwner? base).isSome) :
    Departing base origin (done ++ [.copy ns]) source cluster where
  alike := h.alike
  status := h.status
  held := by rw [Undoing.left_append, Undoing.left_copy, h.held]
  stored := h.stored
  keyed := h.keyed
  spares := h.spares
  copies other := by
    rw [copyAfter_copy]
    by_cases hns : other = ns
    · rw [if_pos hns, hns, ← h.copies ns, ← hkept]
    · rw [if_neg hns, h.copies other]

/-- A copy that belongs to no other source is taken away. -/
theorem takeCopy (h : Departing base origin done source cluster) {ns : String}
    {copy : Artifact base.spec.kind}
    (found : (cluster.artifacts base.spec.kind)[(⟨ns, base.metadata.anyName⟩ : ObjectKey)]? =
      some copy) (own : copy.otherOwner? base = none) :
    Departing base origin (done ++ [.copy ns]) source
      (cluster.removeArtifact base.spec.kind ⟨ns, base.metadata.anyName⟩) where
  alike := h.alike
  status := h.status
  held := by rw [Undoing.left_append, Undoing.left_copy, h.held]
  stored := by
    rw [sources_removeArtifact]
    exact h.stored
  keyed := h.keyed.removeArtifact _ _
  spares := by
    refine h.spares.trans (Spares.writeCopy (fun old hold => ?_) (sources_removeArtifact ..)
      (namespaces_removeArtifact ..) (fun _ hne => artifacts_removeArtifact_ne _ hne _)
      fun _ => artifacts_removeArtifact ..)
    rwa [← Option.some.inj (found.symm.trans hold)]
  copies other := by
    rw [artifacts_removeArtifact, copyAfter_copy]
    by_cases hns : other = ns
    · rw [if_pos (by rw [hns]), if_pos hns, ← h.copies ns, found, Option.filter_some,
        if_neg (by simp [own])]
    · rw [if_neg fun heq => hns (congrArg ObjectKey.ns heq).symm, if_neg hns, h.copies other]

theorem keepTokens (h : Departing base origin done source cluster) {token : String}
    (unheld : ¬ source.holds token) :
    Departing base origin (done ++ [.token token]) source cluster where
  alike := h.alike
  status := h.status
  held := by
    have hsame : source.metadata.held.filter (· ≠ token) = source.metadata.held := by
      refine List.filter_eq_self.mpr fun other mem => ?_
      simpa using fun heq : other = token => unheld (List.contains_iff_mem.mpr (heq ▸ mem))
    rw [Undoing.left_append, Undoing.left_token, ← h.held, hsame]
  stored := h.stored
  keyed := h.keyed
  spares := h.spares
  copies ns := by rw [copyAfter_token, h.copies]

/-- As long as it holds a token, the source is stored. -/
theorem stored_of_holds (h : Departing base origin done source cluster) {token : String}
    (held : source.holds token) : cluster.sources[base.metadata.key]? = some source := by
  have hsome : source.metadata.held ≠ [] := List.ne_nil_of_mem (List.contains_iff_mem.mp held)
  rw [h.stored, if_neg fun hboth => hsome hboth.1]

/-- A token that is held is dropped, and the source is gone with the last one. -/
theorem takeToken (h : Departing base origin done source cluster)
    (leaves : base.isDeleting = true) {token : String} (held : source.holds token) :
    let remaining := source.withFinalizers (source.metadata.held.filter (· ≠ token))
    Departing base origin (done ++ [.token token]) (remaining.atVersion cluster.nextVersion)
      (cluster.replaceSource remaining) := by
  intro remaining
  have hkey : remaining.metadata.key = base.metadata.key := ClusterConfig.key_of_alike h.alike
  have hleft : remaining.metadata.held =
      Undoing.left (done ++ [.token token]) base.metadata.held := by
    rw [Undoing.left_append, Undoing.left_token, ← h.held]
    rfl
  have hbefore : base.metadata.held ≠ [] := by
    intro hnil
    have mem := List.contains_iff_mem.mp held
    rw [h.held, hnil] at mem
    exact List.not_mem_nil mem
  have hdeleting : remaining.isDeleting = true :=
    (ClusterConfig.deleting_of_alike h.alike).trans leaves
  refine ⟨h.alike, h.status, hleft, ?_, h.keyed.replaceSource _, h.spares.trans ?_, fun ns => ?_⟩
  · rw [sources_replaceSource]
    refine (if_pos hkey).trans ?_
    by_cases hnone : remaining.metadata.held = []
    · refine (if_pos ?_).trans (if_pos ⟨hnone, hbefore⟩).symm
      exact Bool.and_eq_true_iff.mpr ⟨hdeleting, List.isEmpty_iff.mpr hnone⟩
    · refine (if_neg ?_).trans (if_neg fun hboth => hnone hboth.1).symm
      exact fun hboth => hnone (List.isEmpty_iff.mp (Bool.and_eq_true_iff.mp hboth).2)
  · refine Spares.writeSource (namespaces_replaceSource ..) (fun key hne => ?_)
      fun _ => artifacts_replaceSource ..
    rw [sources_replaceSource, if_neg]
    exact fun heq => hne (heq ▸ hkey)
  · rw [artifacts_replaceSource, copyAfter_token, h.copies]

theorem withdraw_ensures (h : Departing base origin done source cluster)
    (hkeeps : ¬ Refusal.Loses may) (ns : String) :
    (source.withdraw base.spec.kind ns).Ensures (faulty may) cluster
      (fun _ after => Departing base origin (done ++ [.copy ns]) source after)
      fun _ after => CutShort may base origin done [.copy ns] after := by
  refine (source.withdraw_ensures cluster base.spec.kind ns).mono ?_ ?_
  · rintro removal after ⟨-, hwithdrawn⟩
    rw [ClusterConfig.anyName_of_alike h.alike] at hwithdrawn
    cases hwithdrawn with
    | absent hnone =>
      refine h.keepCopy ?_
      rw [hnone.resolve_right hkeeps]
      rfl
    | foreign found hother =>
      rw [Artifact.otherOwner?_of_alike _ h.alike] at hother
      refine h.keepCopy ?_
      rw [found, Option.filter_some, if_pos hother]
    | deleted found own =>
      rw [Artifact.otherOwner?_of_alike _ h.alike] at own
      exact h.takeCopy found own
  · rintro error after ⟨rfl, hcause⟩
    exact h.cutShort _ (hcause.imp_right (mt (ClusterConfig.named_of_alike h.alike).mpr))

theorem dropToken_ensures (h : Departing base origin done source cluster)
    (leaves : base.isDeleting = true) (token : String) :
    (source.dropToken token).Ensures (faulty may) cluster
      (fun stored after => Departing base origin (done ++ [.token token]) stored after)
      fun _ after => CutShort may base origin done [.token token] after := by
  unfold ClusterConfig.dropToken
  by_cases held : source.holds token
  · rw [if_pos held]
    have hstored := h.stored_of_holds held
    rw [← ClusterConfig.key_of_alike h.alike] at hstored
    refine (cluster.updateSource_ensures _).mono ?_ ?_
    · rintro written after ⟨found, hfound, rfl, rfl⟩
      cases hstored.symm.trans hfound
      exact h.takeToken leaves held
    · rintro error after ⟨rfl, hcause⟩
      refine h.cutShort _ (.inl (hcause.resolve_right fun hno => ?_))
      exact hno source hstored rfl
  · rw [if_neg held]
    exact h.keepTokens held

theorem foldlM_ensures {step : ClusterConfig → String → Program ClusterConfig}
    {takes : String → List Undoing}
    (hstep : ∀ {done source cluster}, Departing base origin done source cluster → ∀ element,
      (step source element).Ensures (faulty may) cluster
        (fun stored after => Departing base origin (done ++ takes element) stored after)
        fun _ after => CutShort may base origin done (takes element) after)
    (h : Departing base origin done source cluster) (list : List String) :
    (list.foldlM step source).Ensures (faulty may) cluster
      (fun stored after => Departing base origin (done ++ list.flatMap takes) stored after)
      fun _ after => CutShort may base origin done (list.flatMap takes) after := by
  induction list generalizing done source cluster with
  | nil =>
    show Departing base origin (done ++ []) source cluster
    rwa [List.append_nil]
  | cons element rest ih =>
    rw [List.foldlM_cons, List.flatMap_cons]
    refine (hstep h element).bind ?_ fun _ _ hcut => hcut.of_first
    intro stored after hstored
    refine (ih hstored).mono ?_ fun _ _ hcut => hcut.of_later
    intro last after hlast
    rwa [List.append_assoc] at hlast

theorem clear_ensures (h : Departing base origin done source cluster)
    (hkeeps : ¬ Refusal.Loses may) (leaves : base.isDeleting = true) (namespaces : List String) :
    (source.clear namespaces).Ensures (faulty may) cluster
      (fun stored after =>
        Departing base origin (done ++ Undoing.clearing namespaces) stored after)
      fun _ after => CutShort may base origin done (Undoing.clearing namespaces) after := by
  unfold ClusterConfig.clear Undoing.clearing
  refine foldlM_ensures ?_ h namespaces
  intro done source cluster h ns
  rw [ClusterConfig.kind_of_alike h.alike, Program.ensures_bind, Program.ensures_discard]
  refine (h.withdraw_ensures hkeeps ns).mono ?_ fun _ _ hcut => hcut.of_first
  intro _ after hafter
  refine (hafter.dropToken_ensures leaves ns).mono ?_ fun _ _ hcut => hcut.of_later
  intro stored after hstored
  rwa [List.append_assoc] at hstored

theorem dropTokens_ensures (h : Departing base origin done source cluster)
    (leaves : base.isDeleting = true) (tokens : List String) :
    (source.dropTokens tokens).Ensures (faulty may) cluster
      (fun stored after => Departing base origin (done ++ tokens.map .token) stored after)
      fun _ after => CutShort may base origin done (tokens.map .token) after := by
  unfold ClusterConfig.dropTokens
  rw [List.map_eq_flatMap]
  exact foldlM_ensures (fun h token => h.dropToken_ensures leaves token) h tokens

theorem withdrawAll_ensures (h : Departing base origin done source cluster)
    (hkeeps : ¬ Refusal.Loses may) (live : List String) :
    (live.forM fun ns => discard (source.withdraw source.spec.kind ns) : Program PUnit).Ensures
      (faulty may) cluster
      (fun _ after => Departing base origin (done ++ live.map .copy) source after)
      fun _ after => CutShort may base origin done (live.map .copy) after := by
  induction live generalizing done cluster with
  | nil =>
    show Departing base origin (done ++ []) source cluster
    rwa [List.append_nil]
  | cons ns rest ih =>
    rw [ClusterConfig.kind_of_alike h.alike] at ih ⊢
    refine (Program.ensures_bind _ _).mpr ((Program.ensures_discard _).mpr ?_)
    rw [List.map_cons]
    refine (h.withdraw_ensures hkeeps ns).mono ?_ fun _ _ hcut => hcut.of_first
    intro _ after hafter
    refine (ih hafter).mono ?_ fun _ _ hcut => hcut.of_later
    intro _ after hlast
    rwa [List.append_assoc] at hlast

/-- The tokens of single namespaces are no other ones once the token for all was dropped. -/
theorem sweep_ensures (h : Departing base origin done source cluster)
    (hkeeps : ¬ Refusal.Loses may) (leaves : base.isDeleting = true) (live : List String) :
    (source.sweep live).Ensures (faulty may) cluster
      (fun _ after => ∃ stored, Departing base origin
        (done ++ Undoing.sweeping live source.namespaceTokens) stored after)
      fun _ after =>
        CutShort may base origin done (Undoing.sweeping live source.namespaceTokens) after := by
  unfold ClusterConfig.sweep Undoing.sweeping
  refine (h.withdrawAll_ensures hkeeps live).bind ?_ fun _ _ hcut => hcut.of_first
  intro _ swept hswept
  refine (hswept.dropToken_ensures leaves everyToken).bind ?_ fun _ _ hcut => hcut.of_first.of_later
  intro stored after hstored
  have htokens : stored.namespaceTokens = source.namespaceTokens := by
    unfold ClusterConfig.namespaceTokens
    rw [hstored.held, Undoing.left_append, ← hswept.held, Undoing.left_token, List.filter_filter]
    congr 1
    funext token
    by_cases htoken : token = everyToken <;> simp [htoken]
  rw [htokens, Program.ensures_discard]
  refine (hstored.dropTokens_ensures leaves _).mono ?_ fun _ _ hcut => hcut.of_later.of_later
  intro last after hlast
  rw [List.append_assoc, List.append_assoc] at hlast
  exact ⟨last, hlast⟩

/-- Once the namespaces of the list and those with tokens are cleared, the only token that may
keep the round busy is the one for all namespaces. -/
theorem of_cleared {listed : List String}
    (h : Departing base origin (Undoing.clearing
      (listed ++ NamespaceList.stale listed base.namespaceTokens)) source cluster) :
    source.namespaceTokens = [] ∧
      (source.holds everyToken = true ↔
        (base.holds everyToken && !listed.contains everyToken) = true) := by
  constructor
  · rw [ClusterConfig.namespaceTokens, h.held, List.filter_eq_nil_iff]
    intro token mem hnamespace
    obtain ⟨hheld, hleft⟩ := Undoing.mem_left.mp mem
    rw [Undoing.token_mem_clearing, List.mem_append, not_or] at hleft
    exact hleft.2 (NamespaceList.mem_stale.mpr ⟨List.mem_filter.mpr ⟨hheld, hnamespace⟩, hleft.1⟩)
  · have hnot : everyToken ∉ base.namespaceTokens := by simp [ClusterConfig.namespaceTokens]
    rw [ClusterConfig.holds, h.held, List.contains_iff_mem, Undoing.mem_left,
      Undoing.token_mem_clearing, List.mem_append, NamespaceList.mem_stale, Bool.and_eq_true,
      ClusterConfig.holds, List.contains_iff_mem]
    simp [hnot]

/-- A round for a source on its way out takes its steps, or the first few of them. -/
theorem cleanup_ensures (keyed : cluster.WellKeyed)
    (stored : cluster.sources[base.metadata.key]? = some base)
    (hkeeps : ¬ Refusal.Loses may) (leaves : base.isDeleting = true) :
    base.cleanup.Ensures (faulty may) cluster
      (fun _ after => ∃ final,
        Departing base cluster (base.undoings cluster.namespaces) final after)
      fun _ after => CutShort may base cluster [] (base.undoings cluster.namespaces) after := by
  have h := Departing.start keyed stored
  unfold ClusterConfig.cleanup ClusterConfig.undoings
  refine (cluster.resolve_ensures _).bind ?_ ?_
  rotate_left
  · rintro error after ⟨rfl, hpossible⟩
    exact h.cutShort _ (.inl hpossible)
  rintro target after ⟨htarget, rfl⟩
  rw [← htarget]
  dsimp only
  by_cases hall : target.all
  · rw [if_pos hall, if_pos hall]
    exact h.sweep_ensures hkeeps leaves target.namespaces
  · rw [if_neg hall, if_neg hall]
    refine (h.clear_ensures hkeeps leaves _).bind ?_ fun _ _ hcut => hcut.of_first
    intro cleared after hcleared
    rw [List.nil_append] at hcleared
    obtain ⟨htokens, hholds⟩ := hcleared.of_cleared
    by_cases hevery : cleared.holds everyToken
    · rw [if_pos hevery, if_pos (hholds.mp hevery)]
      refine (after.listNamespaces_ensures).bind ?_ ?_
      · rintro live after ⟨rfl, rfl⟩
        rw [hcleared.spares.namespaces, ← htokens]
        refine (hcleared.sweep_ensures hkeeps leaves _).mono ?_ fun _ _ hcut => hcut.of_later
        exact fun _ _ hlast => hlast
      · rintro error after ⟨rfl, hpossible⟩
        exact (hcleared.cutShort _ (.inl hpossible)).of_later
    · rw [if_neg hevery, if_neg (mt hholds.mpr hevery), List.append_nil]
      exact ⟨cleared, hcleared⟩

/-- The source is gone once it held tokens and dropped them all. -/
theorem gone_iff (h : Departing base origin done source cluster) :
    cluster.sources[base.metadata.key]? = none ↔
      base.metadata.held ≠ [] ∧ ∀ token ∈ base.metadata.held, .token token ∈ done := by
  have hnone : source.metadata.held = [] ↔ ∀ token ∈ base.metadata.held, .token token ∈ done := by
    rw [h.held, Undoing.left, List.filter_eq_nil_iff]
    simp
  rw [h.stored, ← hnone]
  by_cases hgone : source.metadata.held = [] ∧ base.metadata.held ≠ []
  · rw [if_pos hgone]
    exact ⟨fun _ => hgone.symm, fun _ => rfl⟩
  · rw [if_neg hgone]
    exact ⟨nofun, fun hboth => absurd hboth.symm hgone⟩

theorem holds_iff (h : Departing base origin done source cluster) (token : String) :
    source.holds token = true ↔ base.holds token = true ∧ .token token ∉ done := by
  rw [ClusterConfig.holds, ClusterConfig.holds, h.held, List.contains_iff_mem,
    List.contains_iff_mem, Undoing.mem_left]

/-- A source that does not hold a token any more, or is gone, has dropped it. -/
theorem dropped (h : Departing base origin done source cluster) {token : String}
    (held : base.holds token = true)
    (released : ∀ final, cluster.sources[base.metadata.key]? = some final →
      final.holds token = false) : .token token ∈ done := by
  by_cases hgone : source.metadata.held = [] ∧ base.metadata.held ≠ []
  · have hnone := h.stored.trans (if_pos hgone)
    exact (h.gone_iff.mp hnone).2 token (List.contains_iff_mem.mp held)
  · have hfinal := released source (h.stored.trans (if_neg hgone))
    refine Decidable.byContradiction fun hkept => ?_
    rw [(h.holds_iff token).mpr ⟨held, hkept⟩] at hfinal
    cases hfinal

theorem bears_iff (h : Departing base origin done source cluster) (ns : String) :
    (cluster.holdings base).Bears ns ↔ (origin.holdings base).Bears ns ∧ .copy ns ∉ done := by
  unfold Holdings.Bears
  rw [copies_holdings, copies_holdings, h.copies, copyAfter]
  by_cases hdone : .copy ns ∈ done
  · rw [if_pos hdone]
    refine ⟨?_, fun hboth => absurd hdone hboth.2⟩
    rintro ⟨copy, hcopy, howner⟩
    obtain ⟨artifact, found, rfl⟩ := Option.map_eq_some_iff.mp hcopy
    rw [Artifact.owner?_sansVersion] at howner
    exact absurd howner (Artifact.owner?_of_filter_foreign found)
  · rw [if_neg hdone]
    simp [hdone]

end Departing

/-- A round for a stored source on its way out. -/
theorem teardown_ensures (keyed : cluster.WellKeyed)
    (stored : cluster.sources[base.metadata.key]? = some base)
    (hkeeps : ¬ Refusal.Loses may) (leaves : base.isDeleting = true) :
    (reconcile base.metadata.key).Ensures (faulty may) cluster
      (fun _ after => ∃ final,
        Departing base cluster (base.undoings cluster.namespaces) final after)
      fun _ after => CutShort may base cluster [] (base.undoings cluster.namespaces) after := by
  refine reconcile_of_attend stored (attend_of_round (round_of_leaves leaves
    (Departing.cleanup_ensures keyed stored hkeeps leaves))) ?_ ?_
  · exact fun hloses => absurd hloses hkeeps
  · exact fun hpossible => (Departing.start keyed stored).cutShort _ (.inl hpossible)

end Cluster

/-! ## Asking for the end of a source -/

/-- The source once its end was asked for. -/
def ClusterConfig.marked (source : ClusterConfig) (time : Timestamp) : ClusterConfig :=
  { source with metadata := { source.metadata with deletionTimestamp := some time } }

/-- The cluster once the end of a source was asked for. -/
def Cluster.markDeleting (cluster : Cluster) (key : ObjectKey) (time : Timestamp) : Cluster :=
  match cluster.sources[key]? with
  | some source => cluster.putSource key (source.marked time)
  | none => cluster

namespace Cluster

variable {cluster : Cluster} {key : ObjectKey} {source : ClusterConfig}

theorem sources_markDeleting (stored : cluster.sources[key]? = some source) (time : Timestamp) :
    (cluster.markDeleting key time).sources[key]? =
      some ((source.marked time).atVersion cluster.nextVersion) := by
  rw [markDeleting, stored]
  exact (sources_putSource ..).trans (if_pos rfl)

@[simp] theorem artifacts_markDeleting (cluster : Cluster) (key : ObjectKey) (time : Timestamp)
    (kind : ArtifactKind) : (cluster.markDeleting key time).artifacts kind =
      cluster.artifacts kind := by
  unfold markDeleting
  split
  · exact artifacts_putSource ..
  · rfl

@[simp] theorem namespaces_markDeleting (cluster : Cluster) (key : ObjectKey) (time : Timestamp) :
    (cluster.markDeleting key time).namespaces = cluster.namespaces := by
  unfold markDeleting
  split <;> rfl

theorem WellKeyed.markDeleting (h : cluster.WellKeyed) (key : ObjectKey) (time : Timestamp) :
    (cluster.markDeleting key time).WellKeyed := by
  unfold Cluster.markDeleting
  split
  · next source stored =>
    obtain rfl := h.sources key source stored
    exact h.putSource (source.marked time)
  · exact h

end Cluster

namespace Simulation

variable {simulation : Simulation} {base : ClusterConfig} {may : Refusal → Prop}

/-- A round for a source on its way out takes its steps, or it fails and has taken the first few
of them. -/
theorem Undisturbed.teardown (h : simulation.Undisturbed may) (hkeeps : ¬ Refusal.Loses may)
    (keyed : simulation.cluster.WellKeyed)
    (stored : simulation.cluster.sources[base.metadata.key]? = some base)
    (leaves : base.isDeleting = true) :
    ((∃ action, (simulation.reconcile base.metadata.key).1 = .ok action) ∧
      ∃ final, Cluster.Departing base simulation.cluster
        (base.undoings simulation.cluster.namespaces) final
        (simulation.reconcile base.metadata.key).2.cluster) ∨
    ((∃ error, (simulation.reconcile base.metadata.key).1 = .error error) ∧
      Cluster.CutShort may base simulation.cluster []
        (base.undoings simulation.cluster.namespaces)
        (simulation.reconcile base.metadata.key).2.cluster) := by
  have hensures : (ConfigFanout.reconcile base.metadata.key).Ensures (Cluster.faulty may) _ _ _ :=
    Cluster.teardown_ensures keyed stored hkeeps leaves
  have hboth := hensures.simulate h
  cases hresult : (simulation.reconcile base.metadata.key).1 with
  | ok action => exact .inl ⟨⟨action, rfl⟩, hboth.1 action _ (Prod.ext hresult rfl)⟩
  | error error => exact .inr ⟨⟨error, rfl⟩, hboth.2 error _ (Prod.ext hresult rfl)⟩

/-- However it ends, the round has taken the first few of its steps, or all of them. -/
theorem Undisturbed.departing (h : simulation.Undisturbed may) (hkeeps : ¬ Refusal.Loses may)
    (keyed : simulation.cluster.WellKeyed)
    (stored : simulation.cluster.sources[base.metadata.key]? = some base)
    (leaves : base.isDeleting = true) :
    ∃ done rest final, done ++ rest = base.undoings simulation.cluster.namespaces ∧
      Cluster.Departing base simulation.cluster done final
        (simulation.reconcile base.metadata.key).2.cluster := by
  rcases h.teardown hkeeps keyed stored leaves with
    ⟨-, final, hafter⟩ | ⟨-, ⟨part, rest, final, heq, hafter⟩, -⟩
  · exact ⟨_, [], final, List.append_nil _, hafter⟩
  · exact ⟨part, rest, final, heq, hafter⟩

end Simulation

/-- Without refusals a round for a source on its way out that has a name takes all its steps. -/
theorem Cluster.WellKeyed.teardown {cluster : Cluster} {base : ClusterConfig}
    (keyed : cluster.WellKeyed) (stored : cluster.sources[base.metadata.key]? = some base)
    (named : base.Named) (leaves : base.isDeleting = true) :
    (∃ action, (Simulation.reconcile { cluster } base.metadata.key).1 = .ok action) ∧
      ∃ final, Departing base cluster (base.undoings cluster.namespaces) final
        (Simulation.reconcile { cluster } base.metadata.key).2.cluster := by
  refine ((Simulation.undisturbed_without_rules cluster).teardown Refusal.not_loses_never keyed
    stored leaves).resolve_right ?_
  rintro ⟨-, -, ⟨_, hmay⟩ | hno⟩
  · exact hmay
  · exact hno named

/-- The end of a source is asked for, and a round without refusals follows. -/
def Cluster.ended (cluster : Cluster) (key : ObjectKey) (time : Timestamp) :
    Except Error Action × Simulation :=
  Simulation.reconcile { cluster := cluster.markDeleting key time } key

theorem Cluster.WellKeyed.ended {cluster : Cluster} {source : ClusterConfig}
    (keyed : cluster.WellKeyed) (stored : cluster.sources[source.metadata.key]? = some source)
    (named : source.Named) (time : Timestamp) :
    (∃ action, (cluster.ended source.metadata.key time).1 = .ok action) ∧
      ∃ final, Departing ((source.marked time).atVersion cluster.nextVersion)
        (cluster.markDeleting source.metadata.key time) (source.undoings cluster.namespaces) final
        (cluster.ended source.metadata.key time).2.cluster := by
  have hmarked := keyed.markDeleting source.metadata.key time
  rw [← namespaces_markDeleting cluster source.metadata.key time]
  exact @teardown _ ((source.marked time).atVersion cluster.nextVersion) hmarked
    (sources_markDeleting stored time) named rfl

end ConfigFanout
