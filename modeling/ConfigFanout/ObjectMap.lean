import Std.Data.ExtTreeMap

-- Finite maps whose entries come out in the order of their keys: by text, and by the
-- namespace and name under which an object is stored. Two maps with the same entries
-- are equal.
namespace ConfigFanout

/-- A map from texts, in the order of their code points. -/
abbrev TextMap (α : Type) := Std.ExtTreeMap String α

/-- Where an object is stored. -/
structure ObjectKey where
  /-- The namespace. -/
  ns : String
  name : String
  deriving DecidableEq, Repr, Inhabited

/-- Keys stand by namespace first, then by name. -/
instance : Ord ObjectKey where
  compare := compareLex (compareOn ObjectKey.ns) (compareOn ObjectKey.name)

instance : Std.TransOrd ObjectKey :=
  inferInstanceAs (Std.TransCmp (compareLex _ _))

instance : Std.LawfulEqOrd ObjectKey where
  eq_of_compare {a b} h := by
    rcases a with ⟨aNs, aName⟩
    rcases b with ⟨bNs, bName⟩
    have h := compareLex_eq_eq.mp h
    simp only [compareOn, Std.compare_eq_iff_eq] at h
    simp [h]

/-- A map from the places where objects are stored. -/
abbrev ObjectMap (α : Type) := Std.ExtTreeMap ObjectKey α

end ConfigFanout
