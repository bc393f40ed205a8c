import ConfigFanout.Text.Blank

-- The list of namespaces that a source names, as a text with commas, and how two lists
-- of namespaces differ.
namespace ConfigFanout

/-- Cuts a text at every comma. There is one piece more than there are commas. -/
def cutAtCommas : List Char → List (List Char)
  | [] => [[]]
  | c :: rest =>
    if c = ',' then [] :: cutAtCommas rest
    else
      match cutAtCommas rest with
      | [] => [[c]]
      | first :: others => (c :: first) :: others

/-- Puts a text in its place among sorted ones. -/
def insertText (text : String) : List String → List String
  | [] => [text]
  | first :: rest =>
    if text ≤ first then text :: first :: rest else first :: insertText text rest

/-- Texts in the order of their code points. -/
def sortTexts : List String → List String
  | [] => []
  | text :: rest => insertText text (sortTexts rest)

theorem insertText_perm (text : String) (texts : List String) :
    (insertText text texts).Perm (text :: texts) := by
  induction texts with
  | nil => exact .refl _
  | cons first rest ih =>
    unfold insertText
    split
    · exact .refl _
    · exact (ih.cons first).trans (.swap text first rest)

theorem sortTexts_perm (texts : List String) : (sortTexts texts).Perm texts := by
  induction texts with
  | nil => exact .refl _
  | cons text rest ih => exact (insertText_perm text _).trans (ih.cons text)

theorem insertText_sorted (text : String) {texts : List String}
    (sorted : texts.Pairwise (· ≤ ·)) : (insertText text texts).Pairwise (· ≤ ·) := by
  induction texts with
  | nil => exact List.pairwise_singleton _ _
  | cons first rest ih =>
    have ⟨first_le, rest_sorted⟩ := List.pairwise_cons.mp sorted
    unfold insertText
    split
    · next le =>
      refine List.pairwise_cons.mpr ⟨fun other mem => ?_, sorted⟩
      rcases List.mem_cons.mp mem with rfl | mem
      · exact le
      · exact String.le_trans le (first_le other mem)
    · next not_le =>
      refine List.pairwise_cons.mpr ⟨fun other mem => ?_, ih rest_sorted⟩
      rcases List.mem_cons.mp ((insertText_perm text rest).mem_iff.mp mem) with rfl | mem
      · exact (String.le_total first other).resolve_right not_le
      · exact first_le other mem

theorem sortTexts_sorted (texts : List String) : (sortTexts texts).Pairwise (· ≤ ·) := by
  induction texts with
  | nil => exact .nil
  | cons text rest ih => exact insertText_sorted text ih

namespace NamespaceList

/-- The word that stands for every namespace of the cluster. -/
def everyNamespace : String := "all"

/-- The names in a text: white space goes, wherever it stands, commas divide, and the names
come out sorted. Empty and repeated names stay, so the empty text names one empty name. -/
def parse (raw : String) : List String :=
  sortTexts ((cutAtCommas (raw.toList.filter fun c => !Text.isBlank c)).map String.ofList)

/-- Whether the names are the one word that stands for every namespace. -/
def isEvery (names : List String) : Bool :=
  names = [everyNamespace]

/-- The names of `last` that `target` does not have, each once, in the order of `last`. -/
def stale (target last : List String) : List String :=
  (last.filter fun name => !target.contains name).eraseDups

/-- The names of `target` that `last` does not have, each once, in the order of `target`. -/
def added (target last : List String) : List String :=
  stale last target

theorem mem_stale {target last : List String} {name : String} :
    name ∈ stale target last ↔ name ∈ last ∧ name ∉ target := by
  simp [stale]

theorem cutAtCommas_ne_nil (text : List Char) : cutAtCommas text ≠ [] := by
  fun_cases cutAtCommas text <;> simp

end NamespaceList

/-- The namespaces that a source is to be written to. -/
structure TargetSet where
  /-- The names, sorted. -/
  namespaces : List String
  /-- Whether they are all the namespaces that the cluster listed. -/
  all : Bool
  deriving DecidableEq, Repr, Inhabited

end ConfigFanout
