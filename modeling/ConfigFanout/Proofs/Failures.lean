import ConfigFanout.Proofs.Deeds
import ConfigFanout.Proofs.Walks

-- How a round fails, in any store whatsoever. A program that heeds its answers stops at the
-- first call that fails, with the error of that call. Only what is looked for, or is to be
-- deleted, may be missing. A round heeds its answers, and so each of its parts does.
namespace ConfigFanout

namespace StoreCall

/-- Whether a round puts up with an error: what it looks for, or is about to delete, may be
missing. -/
def tolerates : StoreCall → Error → Bool
  | .getSource _, error | .getArtifact .., error | .deleteArtifact .., error => error.isNotFound
  | _, _ => false

/-- The error that an answer ends a round with, if it does. -/
def fatal? (call : StoreCall) : Except Error call.Answer → Option Error
  | .ok _ => none
  | .error error => if call.tolerates error then none else some error

/-- Whether the call looks up a source. -/
def isFetch : StoreCall → Bool
  | .getSource _ => true
  | _ => false

/-- What a round may object to in the answer to a call that did not fail: an artifact that is
labelled for another source. -/
inductive Objection : (call : StoreCall) → Except Error call.Answer → Error → Prop
  | foreign {kind : ArtifactKind} {place owner : ObjectKey} {artifact : Artifact kind} :
    artifact.owner? = some owner →
    Objection (.getArtifact kind place) (.ok artifact)
      (.foreign kind.resource place owner.path)

end StoreCall

namespace Act

variable {σ : Type}

/-- The error that the act ends a round with, if it is a call that does. -/
def fatal? : Act σ → Option Error
  | .asked _ request answer => request.fatal? answer
  | .told _ => none

/-- Whether the act looks up a source. -/
def isFetch : Act σ → Bool
  | .asked _ request _ => request.isFetch
  | .told _ => false

end Act

/-! ## Programs that heed the answers to their calls -/

/-- Where a program stands that heeds its answers. -/
inductive Footing where
  /-- It may go on, or fail for want of a name or with one of some errors. -/
  | free (last : Error → Prop)
  /-- It has to fail with an error. -/
  | bound (error : Error)

namespace Footing

/-- Whether the program may go on. -/
def Free (footing : Footing) : Prop :=
  ∃ last, footing = .free last

/-- Where the answer to a call leaves a program. -/
def after (request : StoreCall) (answer : Except Error request.Answer) : Footing :=
  match request.fatal? answer with
  | some error => .bound error
  | none => .free (request.Objection answer)

end Footing

/-- Asks of a part of a round that it heeds the answers to its calls: it stops at one that is
fatal, with that error, and else it only fails for want of a name or because of the answer before.
It tells nothing, and does not look up the source again. -/
def Judge.heeding : Judge Footing where
  call request footing holds :=
    footing.Free ∧ request.isFetch = false ∧ ∀ answer, holds answer (.after request answer)
  tell _ _ _ := False
  fail error
    | .free last => error = .missingMetadata "name" ∨ last error
    | .bound fatal => error = fatal
  call_mono h himp := ⟨h.1, h.2.1, fun answer => himp answer _ (h.2.2 answer)⟩
  tell_mono h _ := h

namespace Footing

variable {footing : Footing} {request : StoreCall}

theorem call_returns {holds : request.Answer → Footing → Prop} (free : footing.Free)
    (inside : request.isFetch = false) (hnever : ∀ error, request.tolerates error = false)
    (h : ∀ value, holds value (.free (request.Objection (.ok value)))) :
    Judge.heeding.call request footing (Judge.heeding.returns holds) := by
  refine ⟨free, inside, ?_⟩
  rintro (error | value)
  · rw [after, StoreCall.fatal?, if_neg (by simp [hnever error])]
    exact (rfl : error = error)
  · exact h value

theorem call_finds {missing : Footing → Prop} {holds : request.Answer → Footing → Prop}
    (free : footing.Free) (inside : request.isFetch = false)
    (htolerates : ∀ error, request.tolerates error = error.isNotFound)
    (hmissing : ∀ footing : Footing, footing.Free → missing footing)
    (h : ∀ value, holds value (.free (request.Objection (.ok value)))) :
    Judge.heeding.call request footing (Judge.heeding.finds missing holds) := by
  refine ⟨free, inside, ?_⟩
  rintro (error | value)
  · rw [Judge.finds, after, StoreCall.fatal?, htolerates]
    split
    · exact hmissing _ ⟨_, rfl⟩
    · exact (rfl : error = error)
  · exact h value

theorem Free.unnamed (free : footing.Free) :
    Judge.heeding.fail (.missingMetadata "name") footing := by
  obtain ⟨last, rfl⟩ := free
  exact .inl rfl

end Footing

/-! ## The parts of a round -/

namespace ClusterConfig

variable {source : ClusterConfig} {footing : Footing}

theorem addToken_heeds (free : footing.Free) (token : String) :
    (source.addToken token).Passes .heeding footing fun _ => Footing.Free :=
  passes_addToken (fun _ => free) fun _ =>
    Footing.call_returns free rfl (fun _ => rfl) fun _ => ⟨_, rfl⟩

theorem dropToken_heeds (free : footing.Free) (token : String) :
    (source.dropToken token).Passes .heeding footing fun _ => Footing.Free :=
  passes_dropToken (fun _ => free) fun _ =>
    Footing.call_returns free rfl (fun _ => rfl) fun _ => ⟨_, rfl⟩

theorem recordProcessed_heeds (free : footing.Free) (namespaces : List String) :
    (source.recordProcessed namespaces).Passes .heeding footing fun _ => Footing.Free :=
  passes_recordProcessed (fun _ => free) fun _ =>
    Footing.call_returns free rfl (fun _ => rfl) fun _ => ⟨_, rfl⟩

theorem withdraw_heeds (free : footing.Free) (kind : ArtifactKind) (ns : String) :
    (source.withdraw kind ns).Passes .heeding footing fun _ => Footing.Free := by
  refine passes_withdraw free.unnamed fun _ =>
    Footing.call_finds free rfl (fun _ => rfl) (fun _ hfree => hfree) fun existing => ?_
  exact ⟨fun _ => ⟨_, rfl⟩, fun _ => Footing.call_finds ⟨_, rfl⟩ rfl (fun _ => rfl)
    (fun _ hfree => hfree) fun _ => ⟨_, rfl⟩⟩

theorem synchronize_heeds (free : footing.Free) (kind : ArtifactKind) (ns : String) :
    (source.synchronize kind ns).Passes .heeding footing fun _ => Footing.Free := by
  refine passes_synchronize free.unnamed fun _ =>
    Footing.call_finds free rfl (fun _ => rfl) (fun _ hfree => ?_) fun existing => ?_
  · exact Footing.call_returns hfree rfl (fun _ => rfl) fun _ => ⟨_, rfl⟩
  · refine ⟨fun owner hother => .inr ?_, fun _ _ => ⟨_, rfl⟩, fun _ _ _ =>
      Footing.call_returns ⟨_, rfl⟩ rfl (fun _ => rfl) fun _ => ⟨_, rfl⟩⟩
    exact .foreign (Option.filter_eq_some_iff.mp hother).1

theorem resolve_heeds (free : footing.Free) (raw : String) :
    (resolve raw).Passes .heeding footing fun _ => Footing.Free :=
  passes_resolve (fun _ => free) fun _ =>
    Footing.call_returns free rfl (fun _ => rfl) fun _ => ⟨_, rfl⟩

/-- What a round does for a source that was looked up heeds the answers to its calls. -/
theorem round_heeds (free : footing.Free) :
    source.round.Passes .heeding footing fun _ => Footing.Free := by
  refine passes_round (fun _ => ?_) fun _ => ?_
  · refine passes_apply ((resolve_heeds free _).mono fun target after hfree => ?_)
    refine ⟨fun _ _ => Footing.Free, ?_, hfree, fun _ _ _ hdone => hdone⟩
    exact {
      withdraw := fun hfree _ => withdraw_heeds hfree _ _
      drop := fun hfree _ => dropToken_heeds hfree _
      record := fun hfree => recordProcessed_heeds hfree _
      add := fun hfree _ => addToken_heeds hfree _
      copy := fun hfree _ => synchronize_heeds hfree _ _ }
  · refine passes_cleanup ((resolve_heeds free _).mono fun target after hfree => ?_)
    refine ⟨fun _ => Footing.Free, fun _ _ => Footing.Free, ?_, hfree, fun _ _ hdone => hdone⟩
    exact {
      withdraw := fun hfree _ => withdraw_heeds hfree _ _
      drop := fun hfree _ => dropToken_heeds hfree _
      list := fun hfree _ _ => Footing.call_returns hfree rfl (fun _ => rfl) fun _ => ⟨_, rfl⟩
      sweep := fun hfree _ => withdraw_heeds hfree _ _
      swept := fun hfree => hfree }

end ClusterConfig

/-! ## Whole rounds -/

/-- What a part of a round does, and how it ends, if it heeds its answers: all calls but the last
one are put up with. A call that is not is the last one, and its error is the result. -/
inductive Heeded {σ α : Type} : (Error → Prop) → List (Act σ) → Except Error α → Prop
  | done {last : Error → Prop} {value : α} : Heeded last [] (.ok value)
  | objected {last : Error → Prop} {error : Error} :
    error = .missingMetadata "name" ∨ last error → Heeded last [] (.error error)
  | failed {last : Error → Prop} {state : σ} {request : StoreCall}
    {answer : Except Error request.Answer} {error : Error} : request.isFetch = false →
    request.fatal? answer = some error →
    Heeded last [.asked state request answer] (.error error)
  | passed {last : Error → Prop} {state : σ} {request : StoreCall}
    {answer : Except Error request.Answer} {later : List (Act σ)} {result : Except Error α} :
    request.isFetch = false → request.fatal? answer = none →
    Heeded (request.Objection answer) later result →
    Heeded last (.asked state request answer :: later) result

/-- A program that has to fail does nothing else. -/
theorem Program.eq_fail_of_bound {α : Type} {program : Program α} {fatal : Error}
    (h : program.Passes .heeding (.bound fatal) fun _ => Footing.Free) :
    program = .fail fatal := by
  cases program with
  | done result =>
    cases result with
    | ok value => exact nomatch h
    | error error =>
      obtain rfl : error = fatal := h
      rfl
  | call request next => exact nomatch h.1
  | publish event next => exact h.elim

theorem Program.heeded_of_passes {σ α : Type} {around : Surroundings σ} {program : Program α}
    {last : Error → Prop} {state : σ}
    (h : program.Passes .heeding (.free last) fun _ => Footing.Free) :
    program.Traces around state fun acts result _ => Heeded last acts result := by
  induction program generalizing last state with
  | done result =>
    cases result with
    | ok value => exact .done
    | error error => exact .objected h
  | call request next ih =>
    obtain ⟨-, inside, hanswers⟩ := h
    intro answer after _
    have hanswer := hanswers answer
    cases hfatal : request.fatal? answer with
    | some error =>
      rw [Footing.after, hfatal] at hanswer
      show (next answer).Traces around after _
      rw [eq_fail_of_bound hanswer]
      exact Heeded.failed inside hfatal
    | none =>
      rw [Footing.after, hfatal] at hanswer
      exact Traces.mono (ih answer hanswer) fun _ _ _ hlater => .passed inside hfatal hlater
  | publish event next _ => exact h.elim

theorem ClusterConfig.round_heeded {σ : Type} {around : Surroundings σ} (source : ClusterConfig)
    (state : σ) : source.round.Traces around state fun acts result _ =>
      Heeded (fun _ => False) acts result :=
  Program.heeded_of_passes (round_heeds ⟨_, rfl⟩)

namespace Heeded

variable {σ α : Type} {last : Error → Prop} {acts : List (Act σ)} {result : Except Error α}

/-- A part of a round only calls, and never looks up the source. -/
theorem calls (h : Heeded last acts result) :
    ∀ act ∈ acts, act.event? = none ∧ act.isFetch = false := by
  induction h with
  | done | objected => exact fun _ mem => absurd mem List.not_mem_nil
  | failed inside _ => exact List.forall_mem_singleton.mpr ⟨rfl, inside⟩
  | passed inside _ _ ih => exact List.forall_mem_cons.mpr ⟨⟨rfl, inside⟩, ih⟩

/-- A fatal call is the last one. -/
theorem ends (h : Heeded last acts result) {before later : List (Act σ)} {act : Act σ}
    {error : Error} (heq : acts = before ++ act :: later) (hfatal : act.fatal? = some error) :
    later = [] ∧ result = .error error := by
  induction h generalizing before with
  | done | objected => simp at heq
  | failed _ hlast =>
    cases before with
    | nil =>
      obtain ⟨rfl, rfl⟩ := List.cons.inj heq
      exact ⟨rfl, congrArg Except.error (Option.some.inj (hlast.symm.trans hfatal))⟩
    | cons first before => exact absurd (List.cons.inj heq).2 (by simp)
  | passed _ hnone _ ih =>
    cases before with
    | nil =>
      obtain ⟨rfl, -⟩ := List.cons.inj heq
      exact absurd (hfatal.symm.trans hnone) (by simp)
    | cons first before => exact ih (List.cons.inj heq).2

/-- A part that fails has made a fatal call, or found a foreign artifact, or wants a name. -/
theorem cause {error : Error} (h : Heeded last acts result) (herror : result = .error error) :
    (∃ act ∈ acts, act.fatal? = some error) ∨ error = .missingMetadata "name" ∨ last error ∨
      ∃ state request answer, .asked state request answer ∈ acts ∧
        request.Objection answer error := by
  induction h with
  | done => cases herror
  | objected hobjected =>
    cases herror
    exact .inr (hobjected.imp id .inl)
  | failed _ hfatal =>
    cases herror
    exact .inl ⟨_, List.mem_singleton_self _, hfatal⟩
  | passed _ _ _ ih =>
    rcases ih herror with ⟨act, mem, hfatal⟩ | hname | hlast | ⟨state, request, answer, mem, h⟩
    · exact .inl ⟨act, List.mem_cons_of_mem _ mem, hfatal⟩
    · exact .inr (.inl hname)
    · exact .inr (.inr (.inr ⟨_, _, _, List.mem_cons_self, hlast⟩))
    · exact .inr (.inr (.inr ⟨state, request, answer, List.mem_cons_of_mem _ mem, h⟩))

end Heeded

/-- How a round for the source under a key fails, by what it did and its result. -/
structure FailsOpenly {σ : Type} (key : ObjectKey) (acts : List (Act σ))
    (result : Except Error Action) : Prop where
  /-- No call follows a fatal one, and its error is the result. -/
  last {before later : List (Act σ)} {act : Act σ} {error : Error} :
    acts = before ++ act :: later → act.fatal? = some error →
    (∀ other ∈ later, other.call? = none) ∧ result = .error error
  /-- The error of a fatal call is told in one warning about the source, and nothing else is told,
  unless the source could not be looked up. -/
  told {act : Act σ} {error : Error} : act ∈ acts → act.fatal? = some error →
    act.isFetch = true ∧ acts.filterMap Act.event? = [] ∨
      act.isFetch = false ∧ ∃ state source,
        .asked state (.getSource key) (.ok source) ∈ acts ∧
        acts.filterMap Act.event? = [⟨source, .warning, "ReconcileFailed", error.message⟩]
  /-- A round only fails with the error of a fatal call, for want of a name, or because an artifact
  belongs to another source. -/
  cause {error : Error} : result = .error error →
    (∃ act ∈ acts, act.fatal? = some error) ∨ error = .missingMetadata "name" ∨
      ∃ state request answer, .asked state request answer ∈ acts ∧
        request.Objection answer error
  /-- A round that succeeds has made no fatal call. -/
  clean {action : Action} {act : Act σ} : result = .ok action → act ∈ acts → act.fatal? = none

namespace FailsOpenly

variable {σ : Type} {key : ObjectKey} {state : σ}

theorem of_lost (error : Error) :
    FailsOpenly key [.asked state (.getSource key) (.error error)]
      (if error.isNotFound then .ok .awaitChange else .error error) := by
  have hfatal : ∀ {act : Act σ} {other : Error},
      act ∈ [Act.asked state (.getSource key) (.error error)] → act.fatal? = some other →
      act.isFetch = true ∧ error.isNotFound = false ∧ other = error := by
    intro act other mem hother
    obtain rfl := List.mem_singleton.mp mem
    change (if error.isNotFound = true then none else some error) = some other at hother
    split at hother
    · cases hother
    · next hfound => exact ⟨rfl, by simpa using hfound, (Option.some.inj hother).symm⟩
  refine ⟨fun {before later act other} heq hother => ?_, fun mem hother => ?_, fun herror => ?_,
    fun hok mem => ?_⟩
  · obtain ⟨-, hfound, rfl⟩ := hfatal (heq ▸ List.mem_append_right _ List.mem_cons_self) hother
    have hlater : later = [] := by
      cases before with
      | nil => exact (List.cons.inj heq).2.symm
      | cons first before => exact absurd (List.cons.inj heq).2 (by simp)
    rw [hlater, hfound]
    exact ⟨fun _ mem => absurd mem List.not_mem_nil, rfl⟩
  · exact .inl ⟨(hfatal mem hother).1, rfl⟩
  · split at herror
    · cases herror
    · next hfound =>
      cases herror
      exact .inl ⟨_, List.mem_singleton_self _, if_neg hfound⟩
  · split at hok
    · next hmissing =>
      obtain rfl := List.mem_singleton.mp mem
      exact if_pos hmissing
    · cases hok

end FailsOpenly

/-- What a round does that looks up its source: the look, some calls, and its news. -/
def ClusterConfig.attended {σ : Type} (source : ClusterConfig) (key : ObjectKey) (state : σ)
    (calls : List (Act σ)) (result : Except Error (Option Report)) : List (Act σ) :=
  .asked state (.getSource key) (.ok source) :: (calls ++ (source.news result).map .told)

namespace Heeded

variable {σ : Type} {key : ObjectKey} {state : σ} {source : ClusterConfig} {calls : List (Act σ)}
  {result : Except Error (Option Report)}

theorem news_quiet {act : Act σ} (mem : act ∈ (source.news result).map .told) :
    act.call? = none ∧ act.fatal? = none := by
  obtain ⟨event, -, rfl⟩ := List.mem_map.mp mem
  exact ⟨rfl, rfl⟩

/-- The news are all that is told. -/
theorem events_attended {last : Error → Prop} (h : Heeded last calls result) :
    (source.attended key state calls result).filterMap Act.event? = source.news result := by
  have hcalls : calls.filterMap Act.event? = [] :=
    List.filterMap_eq_nil_iff.mpr fun act mem => (h.calls act mem).1
  have htold : (source.news result).filterMap ((Act.event? : Act σ → _) ∘ .told) =
      source.news result := List.filterMap_some
  rw [ClusterConfig.attended, List.filterMap_cons_none rfl, List.filterMap_append, hcalls,
    List.filterMap_map, htold, List.nil_append]

/-- A fatal act is one of the calls, as the look succeeds and news are no calls. -/
theorem mem_of_fatal {act : Act σ} {error : Error}
    (mem : act ∈ source.attended key state calls result) (hfatal : act.fatal? = some error) :
    act ∈ calls := by
  rcases List.mem_cons.mp mem with rfl | mem
  · cases hfatal
  · refine (List.mem_append.mp mem).resolve_right fun mem => ?_
    exact absurd (hfatal.symm.trans (news_quiet mem).2) (by simp)

variable (h : Heeded (fun _ => False) calls result)

include h

theorem result_of_fatal {act : Act σ} {error : Error} (mem : act ∈ calls)
    (hfatal : act.fatal? = some error) : result = .error error := by
  obtain ⟨before, later, heq⟩ := List.append_of_mem mem
  exact (h.ends heq hfatal).2

/-- No call comes after a fatal one. -/
theorem quiet_of_fatal {before later : List (Act σ)} {act : Act σ} {error : Error}
    (heq : source.attended key state calls result = before ++ act :: later)
    (hfatal : act.fatal? = some error) : ∀ other ∈ later, other.call? = none := by
  intro other mem
  cases before with
  | nil =>
    obtain ⟨rfl, -⟩ := List.cons.inj heq
    cases hfatal
  | cons first before =>
    obtain ⟨-, hsplit⟩ := List.cons.inj heq
    -- Either the calls end before it, or it is one of them, and the last one.
    rcases List.append_eq_append_iff.mp hsplit with ⟨told, -, htold⟩ | ⟨rest, hcalls, hrest⟩
    · refine (@news_quiet _ source result _ ?_).1
      rw [htold]
      exact List.mem_append_right _ (List.mem_cons_of_mem _ mem)
    · cases rest with
      | nil =>
        refine (@news_quiet _ source result _ ?_).1
        rw [← List.nil_append (List.map _ _), ← hrest]
        exact List.mem_cons_of_mem _ mem
      | cons again rest =>
        obtain ⟨rfl, rfl⟩ := List.cons.inj hrest
        obtain ⟨rfl, -⟩ := h.ends hcalls hfatal
        exact (@news_quiet _ source result _ mem).1

/-- A round that looked up its source goes by the answers to its calls, and tells its result. -/
theorem failsOpenly : FailsOpenly key (source.attended key state calls result)
    (result.map fun _ => .awaitChange) where
  last {before later act error} heq hfatal := by
    have mem : act ∈ calls :=
      mem_of_fatal (heq ▸ List.mem_append_right _ List.mem_cons_self) hfatal
    exact ⟨h.quiet_of_fatal heq hfatal, by rw [h.result_of_fatal mem hfatal]; rfl⟩
  told {act error} mem hfatal := by
    have inside := mem_of_fatal mem hfatal
    refine .inr ⟨(h.calls act inside).2, state, source, List.mem_cons_self, ?_⟩
    rw [h.events_attended, h.result_of_fatal inside hfatal]
    rfl
  cause {error} herror := by
    obtain rfl : result = .error error := by
      cases result <;> cases herror
      rfl
    have hinside : ∀ {act : Act σ}, act ∈ calls →
        act ∈ source.attended key state calls (.error error) :=
      fun mem => List.mem_cons_of_mem _ (List.mem_append_left _ mem)
    rcases h.cause rfl with ⟨act, mem, hfatal⟩ | hname | hfalse | ⟨state, request, answer, mem, ho⟩
    · exact .inl ⟨act, hinside mem, hfatal⟩
    · exact .inr (.inl hname)
    · exact hfalse.elim
    · exact .inr (.inr ⟨state, request, answer, hinside mem, ho⟩)
  clean {action act} hok mem := by
    cases hfatal : act.fatal? with
    | none => rfl
    | some error =>
      rw [h.result_of_fatal (mem_of_fatal mem hfatal) hfatal] at hok
      cases hok

end Heeded

/-- A failure is not passed over, in whatever way a store answers. -/
theorem every_round_fails_openly {σ : Type} (store : Store σ) (key : ObjectKey) (state : σ) :
    FailsOpenly key ((reconcile key).acts store state) ((reconcile key).run store state).1 := by
  have htraces : (reconcile key).Traces store.surroundings state fun acts result _ =>
      FailsOpenly key acts result := by
    rw [Cluster.reconcile_eq]
    refine (Program.traces_bind _ _).mpr ((Program.traces_attempt _).mpr
      ((Program.traces_ask _).mpr fun answer after _ => ?_))
    cases answer with
    | error error =>
      have hlost := @FailsOpenly.of_lost _ key state error
      unfold Cluster.attend
      dsimp only
      by_cases hmissing : error.isNotFound
      · rw [if_pos hmissing] at hlost ⊢
        exact hlost
      · rw [if_neg hmissing] at hlost ⊢
        exact hlost
    | ok source =>
      exact Cluster.attend_does ((source.round_heeded after).mono fun _ _ _ => Heeded.failsOpenly)
  exact htraces.store

end ConfigFanout
