import Mathlib.Data.List.Basic
import ConfigFanout.Proofs.Progress

-- What a list of namespaces has that another one does not. The names of the one are taken in
-- turn, and a name that was taken counts from then on as one of the other list, so each comes
-- out once, where it was met first.
namespace ConfigFanout.NamespaceList

variable {target other last : List String} {name : String}

/-! ## One name in turn -/

/-- A name of the other list is passed over. -/
theorem stale_cons_of_mem (mem : name ∈ target) (last : List String) :
    stale target (name :: last) = stale target last := by
  rw [stale, List.filter_cons_of_neg (by simpa using mem), ← stale]

/-- Any other name is taken, and not again. -/
theorem stale_cons_of_not_mem (h : name ∉ target) (last : List String) :
    stale target (name :: last) = name :: stale (name :: target) last := by
  have hrest : (last.filter fun text => !target.contains text).filter (fun text => !text == name) =
      last.filter fun text => !(name :: target).contains text := by
    rw [List.filter_filter]
    refine List.filter_congr fun text _ => ?_
    rw [List.contains_cons, Bool.not_or]
  rw [stale, List.filter_cons_of_pos (by simpa using h), List.eraseDups_cons, hrest, stale]

/-! ## The difference as a whole -/

/-- Names other than the first one are met one place later. -/
theorem idxOf_lt_idxOf_cons {first later : String} (hfirst : first ≠ name) (hlater : later ≠ name)
    (h : last.idxOf first < last.idxOf later) :
    (name :: last).idxOf first < (name :: last).idxOf later := by
  rw [List.idxOf_cons_ne last hfirst.symm, List.idxOf_cons_ne last hlater.symm]
  omega

/-- The names stand in the order in which they were met first. -/
theorem stale_in_order (target last : List String) :
    (stale target last).Pairwise fun first later => last.idxOf first < last.idxOf later := by
  induction last generalizing target with
  | nil => exact .nil
  | cons name last ih =>
    by_cases mem : name ∈ target
    · rw [stale_cons_of_mem mem]
      refine (ih target).imp_of_mem fun hfirst hlater h => idxOf_lt_idxOf_cons ?_ ?_ h
      · rintro rfl
        exact (mem_stale.mp hfirst).2 mem
      · rintro rfl
        exact (mem_stale.mp hlater).2 mem
    · rw [stale_cons_of_not_mem mem]
      have hother : ∀ text ∈ stale (name :: target) last, text ≠ name := by
        rintro text htext rfl
        exact (mem_stale.mp htext).2 List.mem_cons_self
      refine List.pairwise_cons.mpr ⟨fun later hlater => ?_, ?_⟩
      · rw [List.idxOf_cons_self, List.idxOf_cons_ne last (hother later hlater).symm]
        omega
      · exact (ih _).imp_of_mem fun hfirst hlater h =>
          idxOf_lt_idxOf_cons (hother _ hfirst) (hother _ hlater) h

theorem stale_eq_nil_iff : stale target last = [] ↔ ∀ name ∈ last, name ∈ target := by
  rw [List.eq_nil_iff_forall_not_mem]
  refine forall_congr' fun name => ?_
  rw [mem_stale, not_and, not_not]

/-- It does not matter in what order, or how often, the other list has its names. -/
theorem stale_congr_left (h : ∀ name, name ∈ other ↔ name ∈ target) (last : List String) :
    stale other last = stale target last := by
  unfold stale
  congr 1
  refine List.filter_congr fun name _ => ?_
  have hcontains : other.contains name = target.contains name := by
    rw [Bool.eq_iff_iff, List.contains_iff_mem, List.contains_iff_mem, h]
  rw [hcontains]

/-- What is added is stale the other way round. -/
theorem mem_added : name ∈ added target last ↔ name ∈ target ∧ name ∉ last :=
  mem_stale

/-- Without what is stale and with what is added, the last names are the target. -/
theorem mem_target_iff :
    name ∈ target ↔ name ∈ last ∧ name ∉ stale target last ∨ name ∈ added target last := by
  rw [mem_stale, mem_added]
  by_cases htarget : name ∈ target <;> by_cases hlast : name ∈ last <;> simp [htarget, hlast]

/-- What is stale is each name of the last ones that the target does not have, once, in the order
in which they were met first. Nothing of it is added as well. To take away what is stale and to
put up what is added turns the last names into the target, nothing is stale exactly if the target
has all of the last names, and of the target it only matters which names it has. -/
theorem what_is_stale_and_added_turns_one_list_into_another (target last : List String) :
    (stale target last).Nodup ∧
    (∀ name, name ∈ stale target last ↔ name ∈ last ∧ name ∉ target) ∧
    ((stale target last).Pairwise fun first later => last.idxOf first < last.idxOf later) ∧
    (∀ name ∈ stale target last, name ∉ added target last) ∧
    (∀ name, name ∈ target ↔
      name ∈ last ∧ name ∉ stale target last ∨ name ∈ added target last) ∧
    (stale target last = [] ↔ ∀ name ∈ last, name ∈ target) ∧
    ∀ other : List String, (∀ name, name ∈ other ↔ name ∈ target) →
      stale other last = stale target last := by
  refine ⟨nodup_stale target last, fun _ => mem_stale, stale_in_order target last, ?_,
    fun _ => mem_target_iff, stale_eq_nil_iff, fun _ h => stale_congr_left h last⟩
  intro name hstale hadded
  exact (mem_added.mp hadded).2 (mem_stale.mp hstale).1

/-- A name that stands twice in both lists is neither taken away nor put up, and one that was
there twice is taken away where it stood first. -/
theorem a_name_that_was_there_twice_is_taken_away_once :
    stale ["d", "b", "b"] ["c", "b", "a", "c", "b"] = ["c", "a"] ∧
      added ["d", "b", "b"] ["c", "b", "a", "c", "b"] = ["d"] ∧
      stale ["b", "d"] ["c", "b", "a", "c", "b"] =
        stale ["d", "b", "b"] ["c", "b", "a", "c", "b"] := by
  obtain ⟨-, -, -, -, -, -, hcongr⟩ := what_is_stale_and_added_turns_one_list_into_another
    ["d", "b", "b"] ["c", "b", "a", "c", "b"]
  refine ⟨by decide, by decide, hcongr ["b", "d"] fun name => ?_⟩
  simp [or_comm]

end ConfigFanout.NamespaceList
