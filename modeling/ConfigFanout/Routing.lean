import ConfigFanout.Artifact

-- Which sources a notice of a change is for.
namespace ConfigFanout

/-- A source as notices name it. No namespace is not the empty one. -/
structure SourceRef where
  /-- The namespace. -/
  ns : Option String
  name : String
  deriving DecidableEq, Repr, Inhabited

/-- No namespace comes first, then by namespace, then by name. -/
instance : Ord SourceRef where
  compare := compareLex (compareOn SourceRef.ns) (compareOn SourceRef.name)

instance : Std.TransOrd SourceRef :=
  inferInstanceAs (Std.TransCmp (compareLex _ _))

instance : Std.LawfulEqOrd SourceRef where
  eq_of_compare {a b} h := by
    rcases a with ⟨aNs, aName⟩
    rcases b with ⟨bNs, bName⟩
    have h := compareLex_eq_eq.mp h
    simp only [compareOn, Std.compare_eq_iff_eq] at h
    simp [h]

/-- The sources that notices were seen of, as they were last. -/
abbrev KnownSources := Std.ExtTreeMap SourceRef ClusterConfig

/-- How notices name the source. -/
def ClusterConfig.ref (source : ClusterConfig) : SourceRef :=
  ⟨source.metadata.ns, source.metadata.anyName⟩

namespace KnownSources

/-- The sources after one was seen. -/
def see (known : KnownSources) (source : ClusterConfig) : KnownSources :=
  known.insert source.ref source

/-- The sources after some were seen, one after the other. -/
def ofSeen (sources : List ClusterConfig) : KnownSources :=
  sources.foldl see ∅

/-- The sources that a new namespace is for: those that ask for every namespace. -/
def targetingAll (known : KnownSources) : List SourceRef :=
  (known.toList.filter fun entry => entry.2.targetsAll).map (·.1)

end KnownSources

/-- The source that a change of an artifact is for: the one that its labels name. -/
def Artifact.notified? {kind : ArtifactKind} (artifact : Artifact kind) : Option SourceRef :=
  artifact.owner?.map fun owner => ⟨some owner.ns, owner.name⟩

end ConfigFanout
