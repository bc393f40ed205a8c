import ConfigFanout.Cluster.Simulation
import ConfigFanout.Proofs.Outcomes

-- Clusters some of whose calls fail, while nobody else changes anything. A simulation whose
-- rules make no changes is such a cluster.
namespace ConfigFanout

instance decidableEqExcept {ε α : Type} [DecidableEq ε] [DecidableEq α] :
    DecidableEq (Except ε α)
  | .ok a, .ok b => decidable_of_iff (a = b) ⟨congrArg _, Except.ok.inj⟩
  | .error a, .error b => decidable_of_iff (a = b) ⟨congrArg _, Except.error.inj⟩
  | .ok _, .error _ => isFalse nofun
  | .error _, .ok _ => isFalse nofun

/-- A cluster in which each call may be refused as `may` allows. A refused call changes
nothing. -/
def Cluster.faulty (may : Refusal → Prop) : Surroundings Cluster where
  answers request cluster answer after :=
    (answer, after) = cluster.answer request ∨
      ∃ refusal, may refusal ∧ answer = .error (request.error (.refused refusal)) ∧
        after = cluster
  records _ cluster := cluster

/-- The refusals that do not say that something is missing. -/
def Refusal.NotMissing (refusal : Refusal) : Prop :=
  refusal.code ≠ 404

/-- Some call may be refused. -/
def Refusal.Possible (may : Refusal → Prop) : Prop :=
  ∃ refusal, may refusal

/-- Calls may be refused as if something were missing that is there. -/
def Refusal.Loses (may : Refusal → Prop) : Prop :=
  ∃ refusal, may refusal ∧ ¬ refusal.NotMissing

theorem Refusal.not_loses_notMissing : ¬ Loses NotMissing :=
  fun ⟨_, hmay, hnot⟩ => hnot hmay

theorem Refusal.not_loses_never : ¬ Loses fun _ => False :=
  fun ⟨_, hmay, _⟩ => hmay

/-- Nobody but the program changes the cluster, and the calls that fail are refused as `may`
allows. -/
structure Simulation.Undisturbed (may : Refusal → Prop) (simulation : Simulation) : Prop where
  quiet : ∀ rule ∈ simulation.rules, rule.changes = []
  refusals : ∀ rule ∈ simulation.rules, ∀ refusal, rule.refusal = some refusal → may refusal

theorem Simulation.undisturbed_without_rules (cluster : Cluster) :
    Undisturbed (fun _ => False) { cluster } :=
  ⟨by simp, by simp⟩

namespace StoreCall

theorem error_isNotFound {request : StoreCall} {refusal : Refusal} (h : refusal.NotMissing) :
    (request.error (.refused refusal)).isNotFound = false := by
  unfold error
  split
  · simp [Error.ofFault, Error.isNotFound, show refusal.code ≠ 404 from h]
  · rfl

/-- A call that is refused as if its object were missing comes from a cluster that loses
things. -/
theorem loses_of_isNotFound {may : Refusal → Prop} {request : StoreCall} {refusal : Refusal}
    (hmay : may refusal) (h : (request.error (.refused refusal)).isNotFound = true) :
    Refusal.Loses may := by
  refine ⟨refusal, hmay, fun hnot => ?_⟩
  rw [error_isNotFound hnot] at h
  cases h

end StoreCall

/-- A rule stays about the same calls and does the same, however often it was looked at. -/
theorem Rule.consider_same {change : Type} (rule : Rule change) (label : String) :
    (rule.consider label).2.changes = rule.changes ∧
      (rule.consider label).2.refusal = rule.refusal := by
  unfold Rule.consider
  split
  · exact ⟨rfl, rfl⟩
  · split
    · exact ⟨rfl, rfl⟩
    · split <;> exact ⟨rfl, rfl⟩

namespace Simulation

theorem Undisturbed.of_considered {may : Refusal → Prop} {simulation : Simulation}
    (h : simulation.Undisturbed may) (label : String) {rule : Rule Change}
    (mem : rule ∈ (simulation.rules.map fun rule => rule.consider label).map (·.2)) :
    rule.changes = [] ∧ ∀ refusal, rule.refusal = some refusal → may refusal := by
  simp only [List.map_map, List.mem_map, Function.comp_apply] at mem
  obtain ⟨old, hold, rfl⟩ := mem
  have hsame := old.consider_same label
  rw [hsame.1, hsame.2]
  exact ⟨h.quiet old hold, h.refusals old hold⟩

/-- The rules that fire for a call. -/
def firing (simulation : Simulation) (label : String) : List (Rule Change) :=
  ((simulation.rules.map fun rule => rule.consider label).filter (·.1)).map (·.2)

theorem Undisturbed.of_firing {may : Refusal → Prop} {simulation : Simulation}
    (h : simulation.Undisturbed may) (label : String) {rule : Rule Change}
    (mem : rule ∈ simulation.firing label) :
    rule.changes = [] ∧ ∀ refusal, rule.refusal = some refusal → may refusal := by
  obtain ⟨entry, hentry, rfl⟩ := List.mem_map.mp mem
  exact h.of_considered label (List.mem_map_of_mem (List.mem_filter.mp hentry).1)

theorem changeAll_quiet (simulation : Simulation) {rules : List (Rule Change)}
    (h : ∀ rule ∈ rules, rule.changes = []) :
    simulation.changeAll (rules.flatMap (·.changes)) = simulation := by
  rw [List.flatMap_eq_nil_iff.mpr h]
  rfl

/-- A call in a simulation that nobody disturbs: the first rule that fires with a refusal
has its way, or the cluster answers. -/
theorem Undisturbed.answer_eq {may : Refusal → Prop} {simulation : Simulation}
    (h : simulation.Undisturbed may) (request : StoreCall) :
    ((simulation.answer request).1, (simulation.answer request).2.cluster) =
      match (simulation.firing request.label).findSome? (·.refusal) with
      | some refusal => (.error (request.error (.refused refusal)), simulation.cluster)
      | none => simulation.cluster.answer request := by
  have hquiet : ∀ rule ∈ simulation.firing request.label, rule.changes = [] :=
    fun rule mem => (h.of_firing request.label mem).1
  unfold answer
  simp only
  rw [show ((simulation.rules.map fun rule => rule.consider request.label).filter (·.1)).map
    (·.2) = simulation.firing request.label from rfl, changeAll_quiet _ hquiet]
  cases (simulation.firing request.label).findSome? (·.refusal) <;> rfl

theorem Undisturbed.answer_rules {may : Refusal → Prop} {simulation : Simulation}
    (h : simulation.Undisturbed may) (request : StoreCall) :
    (simulation.answer request).2.rules =
      (simulation.rules.map fun rule => rule.consider request.label).map (·.2) := by
  have hquiet : ∀ rule ∈ simulation.firing request.label, rule.changes = [] :=
    fun rule mem => (h.of_firing request.label mem).1
  unfold answer
  simp only
  rw [show ((simulation.rules.map fun rule => rule.consider request.label).filter (·.1)).map
    (·.2) = simulation.firing request.label from rfl, changeAll_quiet _ hquiet]
  split <;> rfl

theorem Undisturbed.answer {may : Refusal → Prop} {simulation : Simulation}
    (h : simulation.Undisturbed may) (request : StoreCall) :
    (simulation.answer request).2.Undisturbed may := by
  constructor
  · intro rule mem
    rw [h.answer_rules] at mem
    exact (h.of_considered _ mem).1
  · intro rule mem
    rw [h.answer_rules] at mem
    exact (h.of_considered _ mem).2

/-- A simulation that nobody disturbs is a cluster in which calls may fail. -/
theorem faulty_admits (may : Refusal → Prop) :
    (Cluster.faulty may).Admits Simulation.store (·.cluster) (Undisturbed may) where
  answers request simulation h := by
    have ha := h.answer_eq request
    split at ha
    · next refusal hf =>
      rw [Prod.mk.injEq] at ha
      obtain ⟨rule, mem, hrule⟩ := List.exists_of_findSome?_eq_some hf
      exact .inr ⟨refusal, (h.of_firing _ mem).2 refusal hrule, ha.1, ha.2⟩
    · exact .inl ha
  records _ _ _ := rfl
  valid_answer request _ h := h.answer request
  valid_record _ _ h := ⟨h.quiet, h.refusals⟩

end Simulation

namespace Program

variable {α : Type} {may : Refusal → Prop}

/-- One call in a cluster in which calls may fail. -/
theorem ensures_ask_faulty (request : StoreCall) {cluster : Cluster}
    {onDone : request.Answer → Cluster → Prop} {onFail : Error → Cluster → Prop}
    (hdone : ∀ value after, cluster.answer request = (.ok value, after) → onDone value after)
    (hfail : ∀ error after, cluster.answer request = (.error error, after) → onFail error after)
    (hrefused : ∀ refusal, may refusal →
      onFail (request.error (.refused refusal)) cluster) :
    (ask request).Ensures (Cluster.faulty may) cluster onDone onFail := by
  rw [ensures_ask]
  rintro answer after (ha | ⟨refusal, hmay, rfl, rfl⟩)
  · cases answer with
    | ok value => exact hdone value after ha.symm
    | error error => exact hfail error after ha.symm
  · exact hrefused refusal hmay

/-- What a program ensures in a cluster in which calls may fail holds of its run in every
simulation of that cluster that nobody disturbs. -/
theorem Ensures.simulate {program : Program α} {simulation : Simulation}
    {onDone : α → Cluster → Prop} {onFail : Error → Cluster → Prop}
    (h : program.Ensures (Cluster.faulty may) simulation.cluster onDone onFail)
    (hs : simulation.Undisturbed may) :
    (∀ value after, program.run Simulation.store simulation = (.ok value, after) →
        onDone value after.cluster) ∧
      ∀ error after, program.run Simulation.store simulation = (.error error, after) →
        onFail error after.cluster :=
  Ensures.run (Simulation.faulty_admits may) hs h

end Program

end ConfigFanout
