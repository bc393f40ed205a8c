import Mathlib.Data.Finset.SDiff
import Mathlib.Data.Finset.Card
import ConfigFanout.Proofs.ForeignFinalizers

-- The finalizers of a source as a ledger of tokens. Each change of it is stored on its own, and the
-- next one starts from the source as it was stored then, so wherever a stretch of changes is cut
-- short, the ledger has those that were made and no others.
namespace ConfigFanout

namespace Act

variable {σ : Type}

/-- The error of a call that failed. -/
def failure? : Act σ → Option Error
  | .asked _ _ (.error error) => some error
  | _ => none

/-- Whether a call puts a source in place of the stored one. -/
def updates : Act σ → Bool
  | .asked _ (.updateSource _) _ => true
  | _ => false

end Act

theorem eraseDups_sublist (texts : List String) : texts.eraseDups.Sublist texts := by
  induction texts using eraseDups_induction with
  | nil => exact .slnil
  | cons first rest ih =>
    rw [List.eraseDups_cons]
    exact (ih.trans List.filter_sublist).cons_cons first

namespace ClusterConfig

variable {may : Refusal → Prop} {source written : ClusterConfig} {cluster after : Cluster}
  {acts later : List (Act Cluster)} {result : Except Error ClusterConfig} {token : String}
  {tokens finalizers : List String}

theorem holds_iff_mem : source.holds token = true ↔ token ∈ source.metadata.held :=
  List.contains_iff_mem

/-! ## One change -/

/-- What one change of the finalizers does: it makes a call that stores them, or that is refused
and changes nothing. -/
inductive ChangesOnce (may : Refusal → Prop) (source : ClusterConfig) (finalizers : List String)
    (before : Cluster) : List (Act Cluster) → Except Error ClusterConfig → Cluster → Prop
  | stored {written : ClusterConfig} :
    written = (source.withFinalizers finalizers).atVersion before.nextVersion →
    ChangesOnce may source finalizers before
      [.asked before (.updateSource (source.withFinalizers finalizers)) (.ok written)]
      (.ok written) (before.replaceSource (source.withFinalizers finalizers))
  | refused {refusal : Refusal} {error : Error} : may refusal →
    error = .ofFault (.refused refusal) .clusterConfig source.metadata.key →
    ChangesOnce may source finalizers before
      [.asked before (.updateSource (source.withFinalizers finalizers)) (.error error)]
      (.error error) before

/-- The stored source is of the same version as the one at hand, so nothing but a refusal stands in
the way of a change. -/
theorem changesOnce_traces (stored : cluster.sources[source.metadata.key]? = some source)
    (finalizers : List String) :
    (Program.ask (.updateSource (source.withFinalizers finalizers))).Traces (Cluster.faulty may)
      cluster (source.ChangesOnce may finalizers cluster) := by
  refine (Program.traces_ask _).mpr ?_
  rintro answer after (ha | ⟨refusal, hmay, rfl, rfl⟩)
  · have hanswer : cluster.answer (.updateSource (source.withFinalizers finalizers)) =
        (.ok ((source.withFinalizers finalizers).atVersion cluster.nextVersion),
          cluster.replaceSource (source.withFinalizers finalizers)) :=
      Cluster.answer_updateSource stored rfl
    obtain ⟨rfl, rfl⟩ := Prod.mk.inj (ha.trans hanswer)
    exact .stored rfl
  · exact .refused hmay rfl

/-- A source that has finalizers is stored with them. -/
theorem stored_withFinalizers (cluster : Cluster) (source : ClusterConfig)
    (nonempty : finalizers ≠ []) :
    (cluster.replaceSource (source.withFinalizers finalizers)).sources[source.metadata.key]? =
      some ((source.withFinalizers finalizers).atVersion cluster.nextVersion) := by
  have hkey : (source.withFinalizers finalizers).metadata.key = source.metadata.key := rfl
  have hheld : (source.withFinalizers finalizers).metadata.held.isEmpty = false := by
    simpa [withFinalizers, Metadata.held] using nonempty
  rw [Cluster.sources_replaceSource, if_pos hkey, hheld, Bool.and_false,
    if_neg Bool.false_ne_true]

/-! ## Adding tokens -/

/-- What adding some tokens one after the other does, wherever it is cut short. -/
structure AddsInTurn (may : Refusal → Prop) (source : ClusterConfig) (tokens : List String)
    (acts : List (Act Cluster)) (result : Except Error ClusterConfig) (after : Cluster) :
    Prop where
  /-- Every call stores the source. -/
  calls : ∀ act ∈ acts, act.updates = true
  /-- A call that fails was refused. -/
  refused : ∀ act ∈ acts, ∀ error, act.failure? = some error → ∃ refusal, may refusal ∧
    error = .ofFault (.refused refusal) .clusterConfig source.metadata.key
  /-- After a call that fails there is no other one, and the source is stored with the tokens that
  came before. -/
  aborted : ∀ k act error, acts[k]? = some act → act.failure? = some error →
    k < tokens.length ∧ acts.length = k + 1 ∧ result = .error error ∧
      ∃ kept, after.sources[source.metadata.key]? = some kept ∧
        kept.metadata.held = source.metadata.held ++ tokens.take k
  /-- If no call fails there is one for each token, and the source is stored with all of them. -/
  completed : (∀ act ∈ acts, act.failure? = none) → acts.length = tokens.length ∧
    ∃ final, result = .ok final ∧ after.sources[source.metadata.key]? = some final ∧
      final.metadata.held = source.metadata.held ++ tokens

namespace AddsInTurn

theorem nil (stored : cluster.sources[source.metadata.key]? = some source) :
    source.AddsInTurn may [] [] (.ok source) cluster where
  calls := by simp
  refused := by simp
  aborted := by simp
  completed _ := ⟨rfl, source, rfl, stored, (List.append_nil _).symm⟩

/-- The first token may be refused. -/
theorem cut {refusal : Refusal} {error : Error} (hmay : may refusal)
    (herror : error = .ofFault (.refused refusal) .clusterConfig source.metadata.key)
    (stored : cluster.sources[source.metadata.key]? = some source) (updated : ClusterConfig) :
    source.AddsInTurn may (token :: tokens)
      [.asked cluster (.updateSource updated) (.error error)] (.error error) cluster where
  calls := by simp [Act.updates]
  refused := by
    rintro act mem other hother
    obtain rfl := List.mem_singleton.mp mem
    obtain rfl := Option.some.inj hother
    exact ⟨refusal, hmay, herror⟩
  aborted := by
    rintro k act other hact hother
    cases k with
    | zero =>
      obtain rfl := Option.some.inj hact
      obtain rfl := Option.some.inj hother
      exact ⟨Nat.succ_pos _, rfl, rfl, source, stored, (List.append_nil _).symm⟩
    | succ k => cases hact
  completed hnone := by
    have hfails := hnone _ (List.mem_singleton_self _)
    cases hfails

/-- Once the first token is stored, the others are added to the source as it is then. -/
theorem cons {updated : ClusterConfig} (hkey : written.metadata.key = source.metadata.key)
    (hheld : written.metadata.held = source.metadata.held ++ [token])
    (h : written.AddsInTurn may tokens later result after) :
    source.AddsInTurn may (token :: tokens)
      (.asked cluster (.updateSource updated) (.ok written) :: later) result after where
  calls := List.forall_mem_cons.mpr ⟨rfl, h.calls⟩
  refused := by
    refine List.forall_mem_cons.mpr ⟨fun error herror => ?_, ?_⟩
    · cases herror
    · rw [← hkey]
      exact h.refused
  aborted := by
    rintro k act error hact herror
    cases k with
    | zero =>
      obtain rfl := Option.some.inj hact
      cases herror
    | succ k =>
      obtain ⟨hlt, hlength, hresult, kept, hkept, hbegun⟩ := h.aborted k act error hact herror
      refine ⟨Nat.succ_lt_succ hlt, congrArg Nat.succ hlength, hresult, kept, hkey ▸ hkept, ?_⟩
      rw [hbegun, hheld, List.append_assoc, List.singleton_append, List.take_succ_cons]
  completed hnone := by
    obtain ⟨hlength, final, hresult, hfinal, hall⟩ :=
      h.completed (List.forall_mem_cons.mp hnone).2
    refine ⟨congrArg Nat.succ hlength, final, hresult, hkey ▸ hfinal, ?_⟩
    rw [hall, hheld, List.append_assoc, List.singleton_append]

end AddsInTurn

/-- Each token that is not held is added to the source as the call before has stored it. -/
theorem addTokens_traces (stored : cluster.sources[source.metadata.key]? = some source)
    (nodup : tokens.Nodup) (absent : ∀ token ∈ tokens, token ∉ source.metadata.held) :
    (tokens.foldlM addToken source).Traces (Cluster.faulty may) cluster
      (source.AddsInTurn may tokens) := by
  induction tokens generalizing source cluster with
  | nil => exact .nil stored
  | cons token rest ih =>
    obtain ⟨hfresh, hrest⟩ := List.nodup_cons.mp nodup
    obtain ⟨hunheld, habsent⟩ := List.forall_mem_cons.mp absent
    have hnot : ¬ source.holds token = true := mt holds_iff_mem.mp hunheld
    rw [List.foldlM_cons, addToken, if_neg hnot]
    refine (Program.traces_bind _ _).mpr ((changesOnce_traces stored _).mono ?_)
    intro acts result after hchange
    cases hchange with
    | refused hmay herror => exact .cut hmay herror stored _
    | @stored written hwritten =>
      have hheld : written.metadata.held = source.metadata.held ++ [token] := by
        rw [hwritten]
        rfl
      have hkey : written.metadata.key = source.metadata.key := by
        rw [hwritten]
        rfl
      -- What is left to be added is still absent, since no token comes twice.
      have hleft : ∀ other ∈ rest, other ∉ written.metadata.held := by
        intro other mem hmem
        rw [hheld, List.mem_append, List.mem_singleton] at hmem
        rcases hmem with hmem | rfl
        · exact habsent other mem hmem
        · exact hfresh mem
      refine (ih ?_ hrest hleft).mono fun later _ _ hlater => hlater.cons hkey hheld
      rw [hkey, hwritten]
      exact stored_withFinalizers cluster source (by simp)

/-! ## Missing tokens -/

theorem mem_missingTokens : token ∈ source.missingTokens tokens ↔
    token ∈ tokens ∧ token ∉ source.metadata.held := by
  rw [missingTokens, List.mem_eraseDups, List.mem_filter]
  simp [holds]

theorem nodup_missingTokens (source : ClusterConfig) (tokens : List String) :
    (source.missingTokens tokens).Nodup :=
  nodup_eraseDups _

/-- There are as many missing tokens as there are distinct ones that the source does not hold. -/
theorem length_missingTokens (source : ClusterConfig) (tokens : List String) :
    (source.missingTokens tokens).length =
      (tokens.toFinset \ source.metadata.held.toFinset).card := by
  rw [← List.toFinset_card_of_nodup (source.nodup_missingTokens tokens)]
  congr 1
  ext token
  simp [mem_missingTokens]

theorem missingTokens_sublist (source : ClusterConfig) (tokens : List String) :
    (source.missingTokens tokens).Sublist tokens :=
  (eraseDups_sublist _).trans List.filter_sublist

theorem missingTokens_eq_nil (h : ∀ token ∈ tokens, token ∈ source.metadata.held) :
    source.missingTokens tokens = [] :=
  List.eq_nil_iff_forall_not_mem.mpr fun token mem =>
    (mem_missingTokens.mp mem).2 (h token (mem_missingTokens.mp mem).1)

/-- What putting up the tokens of a target does. -/
structure PutsUp (may : Refusal → Prop) (source : ClusterConfig) (tokens : List String)
    (acts : List (Act Cluster)) (result : Except Error ClusterConfig) (after : Cluster) :
    Prop extends source.AddsInTurn may (source.missingTokens tokens) acts result after where
  /-- What was missing is added in the order of the tokens. -/
  ordered : (source.missingTokens tokens).Sublist tokens
  /-- If no call fails, there are as many as there are distinct tokens that were not held. -/
  counted : (∀ act ∈ acts, act.failure? = none) →
    acts.length = (tokens.toFinset \ source.metadata.held.toFinset).card
  /-- In the end all tokens are held, and none is missing. -/
  full : ∀ final, result = .ok final → (∀ token ∈ tokens, token ∈ final.metadata.held) ∧
    final.missingTokens tokens = []

theorem putsUp_traces (stored : cluster.sources[source.metadata.key]? = some source)
    (tokens : List String) :
    ((source.missingTokens tokens).foldlM addToken source).Traces (Cluster.faulty may) cluster
      (source.PutsUp may tokens) := by
  refine (addTokens_traces stored (source.nodup_missingTokens tokens) fun token mem =>
    (mem_missingTokens.mp mem).2).mono fun acts result after h =>
    ⟨h, source.missingTokens_sublist tokens, fun hnone => ?_, ?_⟩
  · rw [(h.completed hnone).1, length_missingTokens]
  · rintro final rfl
    -- A call that failed would have been the end.
    have hnone : ∀ act ∈ acts, act.failure? = none := by
      intro act mem
      obtain ⟨k, hk⟩ := List.mem_iff_getElem?.mp mem
      refine Option.eq_none_iff_forall_ne_some.mpr fun error herror => ?_
      obtain ⟨-, -, hresult, -⟩ := h.aborted k act error hk herror
      cases hresult
    obtain ⟨-, other, hother, -, hheld⟩ := h.completed hnone
    obtain rfl := Except.ok.inj hother
    have hall : ∀ token ∈ tokens, token ∈ final.metadata.held := by
      intro token mem
      rw [hheld, List.mem_append, mem_missingTokens]
      exact Decidable.or_iff_not_imp_left.mpr fun hnot => ⟨mem, hnot⟩
    exact ⟨hall, missingTokens_eq_nil hall⟩

/-! ## Dropping a token -/

/-- What dropping a token does. -/
structure Drops (may : Refusal → Prop) (source : ClusterConfig) (token : String)
    (before : Cluster) (acts : List (Act Cluster)) (result : Except Error ClusterConfig)
    (after : Cluster) : Prop where
  /-- A token that is not held takes no call. -/
  absent : token ∉ source.metadata.held → acts = [] ∧ result = .ok source ∧ after = before
  /-- One that is held takes a call that stores the source. -/
  present : token ∈ source.metadata.held → ∃ act, acts = [act] ∧ act.updates = true
  /-- If that is refused, nothing is changed. -/
  refused : ∀ error, result = .error error → after = before ∧ ∃ refusal, may refusal ∧
    error = .ofFault (.refused refusal) .clusterConfig source.metadata.key
  /-- Else all finalizers stay but that one, in their order. -/
  dropped : ∀ final, result = .ok final →
    final.metadata.held = source.metadata.held.filter (· ≠ token) ∧
      after.guards source.metadata.key = source.metadata.held.filter (· ≠ token)

theorem ChangesOnce.drops (held : token ∈ source.metadata.held)
    (left : finalizers = source.metadata.held.filter (· ≠ token))
    (h : source.ChangesOnce may finalizers cluster acts result after) :
    source.Drops may token cluster acts result after := by
  subst left
  cases h with
  | refused hmay herror =>
    refine ⟨fun hnot => absurd held hnot, fun _ => ⟨_, rfl, rfl⟩, fun other hother => ?_,
      fun final hfinal => ?_⟩
    · obtain rfl := Except.error.inj hother
      exact ⟨rfl, _, hmay, herror⟩
    · cases hfinal
  | stored hwritten =>
    refine ⟨fun hnot => absurd held hnot, fun _ => ⟨_, rfl, rfl⟩, fun error herror => ?_,
      fun final hfinal => ?_⟩
    · cases herror
    · obtain rfl := Except.ok.inj hfinal
      rw [hwritten]
      exact ⟨rfl, Cluster.guards_replaceSource cluster _⟩

theorem drops_traces (stored : cluster.sources[source.metadata.key]? = some source)
    (token : String) :
    (source.dropToken token).Traces (Cluster.faulty may) cluster
      (source.Drops may token cluster) := by
  by_cases hheld : token ∈ source.metadata.held
  · rw [dropToken, if_pos (holds_iff_mem.mpr hheld)]
    exact (changesOnce_traces stored _).mono fun _ _ _ h => h.drops hheld rfl
  · rw [dropToken, if_neg (mt holds_iff_mem.mp hheld), Program.traces_pure]
    -- What is not there is not filtered out.
    have hall : source.metadata.held.filter (· ≠ token) = source.metadata.held := by
      refine List.filter_eq_self.mpr fun other mem => decide_eq_true ?_
      rintro rfl
      exact hheld mem
    refine ⟨fun _ => ⟨rfl, rfl, rfl⟩, fun held => absurd held hheld, fun error herror => ?_,
      fun final hfinal => ?_⟩
    · cases herror
    · obtain rfl := Except.ok.inj hfinal
      rw [hall]
      exact ⟨rfl, Cluster.guards_of_stored stored⟩

end ClusterConfig

/-! ## Rounds -/

/-- A change of one token repeats none. -/
theorem ChangesToken.nodup {held finalizers : List String} (h : ChangesToken held finalizers)
    (nodup : held.Nodup) : finalizers.Nodup := by
  cases h with
  | add fresh => exact List.nodup_append_comm.mp (List.nodup_cons.mpr ⟨fresh, nodup⟩)
  | drop => exact nodup.filter _

/-- The finalizers under a key are left as they are by a write of a source with another key. -/
theorem Cluster.guards_replaceSource_of_ne {cluster : Cluster} {source : ClusterConfig}
    {key : ObjectKey} (h : source.metadata.key ≠ key) :
    (cluster.replaceSource source).guards key = cluster.guards key := by
  rw [guards, guards, sources_replaceSource, if_neg h]

theorem Cluster.guards_putSource_status {cluster : Cluster} {stored : ClusterConfig}
    {place : ObjectKey} (hstored : cluster.sources[place]? = some stored)
    (status : Option ClusterConfigStatus) (key : ObjectKey) :
    (cluster.putSource place { stored with status }).guards key = cluster.guards key := by
  rw [guards, guards, sources_putSource]
  by_cases heq : place = key
  · rw [if_pos heq, ← heq, hstored]
    rfl
  · rw [if_neg heq]

/-- A cluster in which each call may be refused as `may` allows, and to which others write as they
like after each call, but who repeat no finalizer of the source under a key. -/
def Cluster.tended (may : Refusal → Prop) (key : ObjectKey) : Surroundings Cluster where
  answers request cluster answer after :=
    ∃ between, (faulty may).answers request cluster answer between ∧ between.Written after ∧
      ((between.guards key).Nodup → (after.guards key).Nodup)
  records _ cluster := cluster

/-- No finalizer is repeated under a key, neither in the cluster nor, if a round is about the
source under that key, in the source at hand. -/
structure Knowledge.Unrepeated (key place : ObjectKey) (known : Knowledge) (cluster : Cluster) :
    Prop where
  keyed : cluster.WellKeyed
  guards : (cluster.guards key).Nodup
  named : ∀ hand, known.hand = some hand → hand.metadata.key = place
  hand : ∀ hand, known.hand = some hand → place = key → hand.metadata.held.Nodup

namespace Knowledge.Unrepeated

variable {key place : ObjectKey} {known : Knowledge} {cluster after : Cluster}

theorem start (keyed : cluster.WellKeyed) (nodup : (cluster.guards key).Nodup) :
    Unrepeated key place {} cluster where
  keyed := keyed
  guards := nodup
  named hand hhand := by cases hhand
  hand hand hhand := by cases hhand

theorem forget (h : Unrepeated key place known cluster) {next : Knowledge}
    (keyed : after.WellKeyed) (same : after.guards key = cluster.guards key)
    (hnext : next.hand = known.hand) : Unrepeated key place next after :=
  ⟨keyed, same ▸ h.guards, fun hand hhand => h.named hand (hnext ▸ hhand),
    fun hand hhand => h.hand hand (hnext ▸ hhand)⟩

theorem updateSource (h : Unrepeated key place known cluster) {hand : ClusterConfig}
    {finalizers : List String} {value : ClusterConfig} (hhand : known.hand = some hand)
    (changes : ChangesToken hand.metadata.held finalizers)
    (grants : cluster.Grants (.updateSource (hand.withFinalizers finalizers)) value after) :
    Unrepeated key place (known.learn (.updateSource (hand.withFinalizers finalizers)) (.ok value))
      after := by
  have hkeyed := (grants.written h.keyed).keyed h.keyed
  have hplace := h.named hand hhand
  have hnodup : place = key → finalizers.Nodup := fun heq => changes.nodup (h.hand hand hhand heq)
  cases grants with
  | updateSource hstored version =>
    refine ⟨hkeyed, ?_, fun next hnext => ?_, fun next hnext heq => ?_⟩
    · by_cases heq : place = key
      · rw [← heq, ← hplace]
        exact (Cluster.guards_replaceSource cluster _).symm ▸ hnodup heq
      · have hne : hand.metadata.key ≠ key := hplace ▸ heq
        refine (congrArg List.Nodup ?_).mpr h.guards
        exact Cluster.guards_replaceSource_of_ne hne
    · obtain rfl := Option.some.inj hnext
      exact hplace
    · obtain rfl := Option.some.inj hnext
      exact hnodup heq

/-- What a round is answered leaves no finalizer repeated. -/
theorem learn (h : Unrepeated key place known cluster) {request : StoreCall}
    {value : request.Answer} (warranted : Warranted place known request)
    (grants : cluster.Grants request value after) :
    Unrepeated key place (known.learn request (.ok value)) after := by
  have hkeyed := (grants.written h.keyed).keyed h.keyed
  cases warranted with
  | fetch =>
    cases grants with
    | getSource hstored =>
      refine ⟨h.keyed, h.guards, fun hand hhand => ?_, fun hand hhand heq => ?_⟩
      · obtain rfl := Option.some.inj hhand
        exact h.keyed.sources place _ hstored
      · obtain rfl := Option.some.inj hhand
        have hguards := h.guards
        rwa [Cluster.guards_of_stored (heq ▸ hstored)] at hguards
  | list | look =>
    cases grants
    exact h.forget h.keyed rfl rfl
  | create | replace =>
    cases grants
    exact h.forget hkeyed (Cluster.guards_congr (Cluster.sources_putArtifact ..)) rfl
  | take =>
    cases grants
    exact h.forget hkeyed (Cluster.guards_congr (Cluster.sources_removeArtifact ..)) rfl
  | add hhand unheld =>
    exact h.updateSource hhand (.add (by simpa [ClusterConfig.holds] using unheld)) grants
  | drop hhand held =>
    exact h.updateSource hhand (.drop (ClusterConfig.holds_iff_mem.mp held)) grants
  | @record hand namespaces hhand =>
    have hplace := h.named hand hhand
    cases grants with
    | @updateStatus _ stored hstored =>
      have hsame := Cluster.guards_putSource_status hstored (some ⟨namespaces⟩) key
      refine ⟨hkeyed, hsame ▸ h.guards, fun next hnext => ?_, fun next hnext heq => ?_⟩
      · obtain rfl := Option.some.inj hnext
        exact (h.keyed.sources _ stored hstored).trans hplace
      · obtain rfl := Option.some.inj hnext
        have hguards := h.guards
        rwa [Cluster.guards_of_stored (heq ▸ hplace ▸ hstored)] at hguards

end Knowledge.Unrepeated

variable {may : Refusal → Prop} {key : ObjectKey} {cluster : Cluster}

theorem reconcile_unrepeated (place : ObjectKey) (keyed : cluster.WellKeyed)
    (nodup : (cluster.guards key).Nodup) :
    (reconcile place).Traces (Cluster.tended may key) cluster fun acts _ after =>
      (∀ act ∈ acts, (act.guards key).Nodup) ∧ after.WellKeyed ∧ (after.guards key).Nodup := by
  have hfits : (Monitor.round place).Fits (Cluster.tended may key)
      (fun _ => Knowledge.Unrepeated key place) fun _ act => (act.guards key).Nodup := by
    constructor
    · rintro past known cluster request answer after h warranted
        ⟨between, hanswer, hwritten, hothers⟩
      refine ⟨h.guards, ?_⟩
      have hbetween : Knowledge.Unrepeated key place (known.learn request answer) between := by
        rcases Cluster.granted_or_left hanswer with ⟨value, rfl, grants⟩ | ⟨error, rfl, rfl⟩
        · exact h.learn warranted grants
        · exact h.forget h.keyed rfl (Knowledge.hand_learn_error known request error)
      exact ⟨hwritten.keyed hbetween.keyed, hothers hbetween.guards, hbetween.named,
        hbetween.hand⟩
    · exact fun _ h => ⟨List.nodup_nil, h⟩
  have hends : (reconcile place).Traces (Cluster.tended may key) cluster fun acts _ after =>
      Each (fun _ act => (act.guards key).Nodup) [] acts ∧
        ∃ known, Knowledge.Unrepeated key place known after :=
    (reconcile_obeys place).ends hfits (.start keyed nodup)
  refine hends.mono ?_
  rintro acts _ after ⟨heach, known, hends⟩
  refine ⟨fun act mem => ?_, hends.keyed, hends.guards⟩
  obtain ⟨before, later, rfl⟩ := List.append_of_mem mem
  exact heach before act later rfl

/-- Rounds for the sources under some keys, one after the other. One that fails does not keep the
next ones from being made. -/
def rounds (keys : List ObjectKey) : Program Unit :=
  keys.forM fun key => discard (reconcile key).attempt

theorem rounds_unrepeated (keys : List ObjectKey) (keyed : cluster.WellKeyed)
    (nodup : (cluster.guards key).Nodup) :
    (rounds keys).Traces (Cluster.tended may key) cluster fun acts _ after =>
      (∀ act ∈ acts, (act.guards key).Nodup) ∧ (after.guards key).Nodup := by
  induction keys generalizing cluster with
  | nil => exact ⟨by simp, nodup⟩
  | cons place rest ih =>
    have hround : (discard (reconcile place).attempt : Program PUnit).Traces
        (Cluster.tended may key) cluster fun acts _ after =>
          (∀ act ∈ acts, (act.guards key).Nodup) ∧ after.WellKeyed ∧ (after.guards key).Nodup :=
      (Program.traces_map _ _).mpr
        ((Program.traces_attempt _).mpr (reconcile_unrepeated place keyed nodup))
    refine (Program.traces_bind _ _).mpr (hround.mono ?_)
    rintro acts (error | _) between ⟨hacts, hkeyed, hnodup⟩
    · exact ⟨hacts, hnodup⟩
    · refine (ih hkeyed hnodup).mono ?_
      rintro later _ after ⟨hlater, hafter⟩
      exact ⟨List.forall_mem_append.mpr ⟨hacts, hlater⟩, hafter⟩

theorem Simulation.tended_admits (may : Refusal → Prop) (key : ObjectKey) :
    (Cluster.tended may key).Admits Simulation.store (·.cluster) (Undisturbed may) where
  answers request simulation h :=
    ⟨_, (faulty_admits may).answers request simulation h, .refl, id⟩
  records := (faulty_admits may).records
  valid_answer := (faulty_admits may).valid_answer
  valid_record := (faulty_admits may).valid_record

/-- Wherever the tokens of a target stop being put up, the source is stored with what it held and
the missing tokens up to there; if nothing stops it, they are all there, after as many calls as
there were distinct ones missing. A token that is dropped goes every time that it is there, if its
call is not refused, and takes no call if it is not there. So rounds, for whichever sources and
with whatever failures, repeat no finalizer, if others repeat none. -/
theorem the_ledger_of_finalizers_is_exact {may : Refusal → Prop} {source : ClusterConfig}
    (keyed : cluster.WellKeyed) (stored : cluster.sources[source.metadata.key]? = some source) :
    (∀ target : TargetSet,
      ((source.missingTokens target.tokens).foldlM ClusterConfig.addToken source).Traces
        (Cluster.faulty may) cluster (source.PutsUp may target.tokens)) ∧
    (∀ token : String, (source.dropToken token).Traces (Cluster.faulty may) cluster
      (source.Drops may token cluster)) ∧
    ∀ (key : ObjectKey) (keys : List ObjectKey), (cluster.guards key).Nodup →
      (rounds keys).Traces (Cluster.tended may key) cluster fun acts _ after =>
        (∀ act ∈ acts, (act.guards key).Nodup) ∧ (after.guards key).Nodup :=
  ⟨fun target => ClusterConfig.putsUp_traces stored target.tokens,
    ClusterConfig.drops_traces stored, fun _ keys => rounds_unrepeated keys keyed⟩

/-- A source that has one of the tokens of its targets, some of which are named twice. -/
def ClusterConfig.halfway : ClusterConfig :=
  (ClusterConfig.trial "b,a,b,c,a").withFinalizers ["c"]

def Cluster.halfway : Cluster :=
  ({ namespaces := ["a", "b", "c"] } : Cluster).putSource ⟨"default", "app-config"⟩ .halfway

/-- The second call that stores the source is refused. -/
def Simulation.halfway : Simulation where
  cluster := .halfway
  rules := [{
    on := "update_source default/app-config", skip := 1, refusal := some { code := 500 } }]

/-- The tokens of its targets are put up. -/
def ClusterConfig.putUpHalfway : Program ClusterConfig :=
  ((ClusterConfig.halfway.atVersion 1).missingTokens ["b", "a", "b", "c", "a"]).foldlM addToken
    (ClusterConfig.halfway.atVersion 1)

/-- The token that comes before the refused one is stored. The token that was held can be dropped,
and two rounds repeat none. -/
theorem a_refused_token_leaves_the_ones_before :
    (∃ kept, (ClusterConfig.putUpHalfway.run Simulation.store .halfway).2.cluster.sources[
        (⟨"default", "app-config"⟩ : ObjectKey)]? = some kept ∧
      kept.metadata.held = ["c", "b"]) ∧
    (((ClusterConfig.halfway.atVersion 1).dropToken "c").run Simulation.store
      .halfway).2.cluster.guards ⟨"default", "app-config"⟩ = [] ∧
    (((rounds [⟨"default", "app-config"⟩, ⟨"default", "app-config"⟩]).run Simulation.store
      .halfway).2.cluster.guards ⟨"default", "app-config"⟩).Nodup := by
  have keyed : Cluster.halfway.WellKeyed := (Cluster.keyed_empty _).putSource .halfway
  have stored : Cluster.halfway.sources[(⟨"default", "app-config"⟩ : ObjectKey)]? =
      some (ClusterConfig.halfway.atVersion 1) := by decide +kernel
  have hs : Simulation.halfway.Undisturbed fun _ => True :=
    ⟨by simp [Simulation.halfway], by simp⟩
  obtain ⟨hadds, hdrops, hrounds⟩ := @the_ledger_of_finalizers_is_exact .halfway
    (fun _ => True) (ClusterConfig.halfway.atVersion 1) keyed stored
  refine ⟨?_, ?_, ?_⟩
  · have hputs := (hadds ⟨["b", "a", "b", "c", "a"], false⟩).simulate hs
    have hfails : (((Simulation.halfway.acts ClusterConfig.putUpHalfway)[1]?).bind
        Act.failure?).isSome = true := by
      decide +kernel
    obtain ⟨error, herror⟩ := Option.isSome_iff_exists.mp hfails
    obtain ⟨act, hact, hfailure⟩ := Option.bind_eq_some_iff.mp herror
    obtain ⟨-, -, -, kept, hkept, hheld⟩ := hputs.aborted 1 act error hact hfailure
    exact ⟨kept, hkept, hheld.trans (by decide +kernel)⟩
  · have hdropped : (((ClusterConfig.halfway.atVersion 1).dropToken "c").run Simulation.store
        .halfway).1 = .ok (((ClusterConfig.halfway.withFinalizers []).atVersion 2)) := by
      decide +kernel
    exact (((hdrops "c").simulate hs).dropped _ hdropped).2.trans (by decide +kernel)
  · have hguards : Cluster.halfway.guards ⟨"default", "app-config"⟩ = ["c"] :=
      Cluster.guards_of_stored stored
    exact ((hrounds _ _ (hguards ▸ List.nodup_singleton _)).run
      (Simulation.tended_admits _ _) hs).2

end ConfigFanout
