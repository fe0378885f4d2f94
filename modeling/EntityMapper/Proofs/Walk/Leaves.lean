import EntityMapper.Proofs.Walk.LeafPath
import Mathlib.Data.List.Forall2
import Mathlib.Data.List.Nodup

/-!
# The leaves that a walk visits

A walk that meets no fault visits exactly the leaf paths that start in its fields, one visit a
leaf path, and each visit carries what the layers along its path say (`Walked.leaves`). What two
visits share of their way they share together with its variables (`Walked.shareWay`).
-/
namespace EntityMapper

/-- Of two lists in correspondence, every member of the second answers to one of the first. -/
theorem exists_of_forall₂ {α β : Type} {r : α → β → Prop} {as : List α} {bs : List β}
    (related : List.Forall₂ r as bs) {b : β} (member : b ∈ bs) : ∃ a ∈ as, r a b := by
  induction related with
  | nil => cases member
  | @cons a _ _ _ head _ ih =>
    rcases List.mem_cons.mp member with same | tail
    · exact ⟨a, List.mem_cons_self, same ▸ head⟩
    · obtain ⟨other, inRest, answers⟩ := ih tail
      exact ⟨other, List.mem_cons_of_mem _ inRest, answers⟩

/-- Within every declared class, fields differ by name. -/
def Metadata.DistinctFields (metadata : Metadata) : Prop :=
  ∀ decl ∈ metadata.classes, (decl.fields.map (·.name)).Nodup

instance (metadata : Metadata) : Decidable metadata.DistinctFields :=
  inferInstanceAs (Decidable (∀ decl ∈ metadata.classes, (decl.fields.map (·.name)).Nodup))

/-- The layers that the embedded fields of a path open below `depth` names. -/
def enclosingLayers : (depth : Nat) → List FieldDeclaration → List OverrideLayer
  | _, [] => []
  | depth, field :: around =>
    ⟨field.embedded.getD [], depth + 1⟩ :: enclosingLayers (depth + 1) around

/-- What the embedded fields of a path contribute to column names, each under the layers outside
it; `outer` are the names above them. -/
def enclosingFragments (layers : List OverrideLayer) (outer : List String) :
    List FieldDeclaration → List String
  | [] => []
  | field :: around =>
    embeddedFragment field (mergedOverride layers (outer ++ [field.name])) ::
      enclosingFragments (layers ++ [⟨field.embedded.getD [], outer.length + 1⟩])
        (outer ++ [field.name]) around

/-- The overrides for a leaf path below a frame. -/
def Frame.overridesFor (frame : Frame) (leaf : LeafPath) : Option ColumnOptions :=
  mergedOverride (frame.layers ++ enclosingLayers frame.site.path.length leaf.around)
    (frame.site.path ++ leaf.names)

/-- A visit of the leaf path, at its site and with its overrides; the variables are left open. -/
def Visit.ShowsLeaf (frame : Frame) (leaf : LeafPath) (visit : Visit) : Prop :=
  ∃ parents : List Embedding,
    visit = .leaf ⟨⟨frame.site.parents ++ parents,
        frame.site.fragments ++ enclosingFragments frame.layers frame.site.path leaf.around,
        frame.site.path ++ leaf.around.map (·.name)⟩, leaf.field⟩ (frame.overridesFor leaf) ∧
      parents.map (fun parent => (parent.fieldName, parent.typeName)) =
        leaf.around.map fun field => (field.name, field.type)

def Visit.isLeaf : Visit → Bool
  | .leaf .. => true
  | _ => false

/-- Seen from outside, a visit inside an embedded field shows the leaf path through the field. -/
theorem Visit.ShowsLeaf.beneath {frame : Frame} {field : FieldDeclaration} {inner : Overrides}
    {decl : ClassDeclaration} {vars : Variables} {leaf : LeafPath} {visit : Visit}
    (embeds : field.embedded = some inner)
    (shows : visit.ShowsLeaf (frame.within field inner decl vars) leaf) :
    visit.ShowsLeaf frame (leaf.beneath field) := by
  obtain ⟨parents, visited, typed⟩ := shows
  refine ⟨⟨field.name, field.type, (vars.allocate field.type).1⟩ :: parents, ?_, ?_⟩
  · rw [visited]
    simp [Frame.within, Frame.embed, Site.inside, Frame.overridesFor, FieldPath.names,
      LeafPath.beneath, LeafPath.names, enclosingLayers, enclosingFragments, embeds]
  · simp [LeafPath.beneath, typed]

/-- Leaf paths through a field differ from each other and from those that do not go through it. -/
theorem nodup_names_beneath {field : FieldDeclaration} {within leaves : List LeafPath}
    (inner : (within.map LeafPath.names).Nodup) (others : (leaves.map LeafPath.names).Nodup)
    (fresh : ∀ leaf ∈ leaves, ∀ path, leaf.names ≠ field.name :: path) :
    ((within.map (LeafPath.beneath field) ++ leaves).map LeafPath.names).Nodup := by
  have headed : (within.map (LeafPath.beneath field)).map LeafPath.names =
      (within.map LeafPath.names).map (field.name :: ·) := by
    simp [List.map_map, Function.comp_def]
  rw [List.map_append, headed, List.nodup_append']
  refine ⟨inner.map List.cons_injective, others, fun path through inLeaves => ?_⟩
  obtain ⟨below, _, same⟩ := List.mem_map.mp through
  obtain ⟨leaf, member, named⟩ := List.mem_map.mp inLeaves
  exact fresh leaf member below (named.trans same.symm)

/-- A walk without fault visits the leaf paths of its fields, each once and in turn. -/
theorem Walked.leaves {metadata : Metadata} {frame : Frame} {fields : List FieldDeclaration}
    {vars after : Variables} {visits : List Visit}
    (walked : Walked metadata frame fields vars visits after)
    (faultless : ∀ visit ∈ visits, visit.isLeaf = true) :
    ∃ leaves : List LeafPath, (∀ leaf, leaf ∈ leaves ↔ LeadsTo metadata fields leaf) ∧
      List.Forall₂ (Visit.ShowsLeaf frame) leaves visits ∧
      (metadata.DistinctFields → (fields.map (·.name)).Nodup →
        (leaves.map LeafPath.names).Nodup) := by
  induction walked with
  | done frame vars => exact ⟨[], by simp [not_leadsTo_nil], .nil, by simp⟩
  | dropped unstored others ih =>
    obtain ⟨leaves, reached, shown, distinct⟩ := ih faultless
    refine ⟨leaves, fun leaf => ?_, shown, fun classes names => ?_⟩
    · rw [reached, leadsTo_cons]
      simp [leadsTo_dropped unstored]
    · exact distinct classes (List.nodup_cons.mp names).2
  | @leaf frame field rest _ _ _ stored plain others ih =>
    obtain ⟨leaves, reached, shown, distinct⟩ := ih fun visit member =>
      faultless visit (List.mem_cons_of_mem _ member)
    refine ⟨⟨[], field⟩ :: leaves, fun leaf => ?_, .cons ⟨[], ?_, rfl⟩ shown,
      fun classes names => ?_⟩
    · rw [leadsTo_cons, leadsTo_plain stored plain, List.mem_cons, reached]
    · simp [Frame.overridesFor, FieldPath.names, LeafPath.names, enclosingLayers,
        enclosingFragments]
    · obtain ⟨fresh, others⟩ := List.nodup_cons.mp names
      refine List.nodup_cons.mpr ⟨fun member => ?_, distinct classes others⟩
      obtain ⟨leaf, inLeaves, same⟩ := List.mem_map.mp member
      exact ((reached leaf).mp inLeaves).names_ne_cons fresh [] same
  | unknown _ _ _ _ _ => exact absurd (faultless _ List.mem_cons_self) (by simp [Visit.isLeaf])
  | cycle _ _ _ _ _ _ => exact absurd (faultless _ List.mem_cons_self) (by simp [Visit.isLeaf])
  | @inside frame field rest inner decl vars middle after nested visits stored embeds declared
      fresh body others ihBody ihOthers =>
    obtain ⟨within, reachedWithin, shownWithin, distinctWithin⟩ := ihBody fun visit member =>
      faultless visit (List.mem_append_left _ member)
    obtain ⟨leaves, reached, shown, distinct⟩ := ihOthers fun visit member =>
      faultless visit (List.mem_append_right _ member)
    refine ⟨within.map (LeafPath.beneath field) ++ leaves, fun leaf => ?_, ?_,
      fun classes names => ?_⟩
    · rw [leadsTo_cons, leadsTo_embedded stored embeds declared, List.mem_append, reached,
        List.mem_map]
      simp [reachedWithin, eq_comm]
    · refine List.rel_append ?_ shown
      rw [List.forall₂_map_left_iff]
      exact shownWithin.imp fun _ _ shows => shows.beneath embeds
    · obtain ⟨freshName, otherNames⟩ := List.nodup_cons.mp names
      have inner := distinctWithin classes (classes decl (Metadata.class?_mem declared).1)
      exact nodup_names_beneath inner (distinct classes otherNames) fun leaf inLeaves path =>
        ((reached leaf).mp inLeaves).names_ne_cons freshName path

/-- Every leaf that a walk visits is that of a leaf path, whatever faults it meets elsewhere. -/
theorem Walked.exists_leadsTo {metadata : Metadata} {frame : Frame} {fields : List FieldDeclaration}
    {vars after : Variables} {visits : List Visit}
    (walked : Walked metadata frame fields vars visits after) {visit : Visit}
    (visited : visit ∈ visits) (isLeaf : visit.isLeaf = true) :
    ∃ leaf, LeadsTo metadata fields leaf ∧ visit.ShowsLeaf frame leaf := by
  induction walked with
  | done frame vars => cases visited
  | dropped _ _ ih =>
    obtain ⟨leaf, leads, shows⟩ := ih visited
    exact ⟨leaf, leadsTo_cons.mpr (.inr leads), shows⟩
  | @leaf _ field _ _ _ _ stored plain _ ih =>
    rcases List.mem_cons.mp visited with rfl | tail
    · refine ⟨⟨[], field⟩, .here List.mem_cons_self stored plain, [], ?_, rfl⟩
      simp [Frame.overridesFor, FieldPath.names, LeafPath.names, enclosingLayers,
        enclosingFragments]
    · obtain ⟨leaf, leads, shows⟩ := ih tail
      exact ⟨leaf, leadsTo_cons.mpr (.inr leads), shows⟩
  | unknown _ _ _ _ ih | cycle _ _ _ _ _ ih =>
    rcases List.mem_cons.mp visited with rfl | tail
    · cases isLeaf
    · obtain ⟨leaf, leads, shows⟩ := ih tail
      exact ⟨leaf, leadsTo_cons.mpr (.inr leads), shows⟩
  | inside stored embeds declared _ _ _ ihBody ihOthers =>
    rcases List.mem_append.mp visited with body | tail
    · obtain ⟨leaf, leads, shows⟩ := ihBody body
      exact ⟨leaf.beneath _, .inside List.mem_cons_self stored embeds declared leads,
        shows.beneath embeds⟩
    · obtain ⟨leaf, leads, shows⟩ := ihOthers tail
      exact ⟨leaf, leadsTo_cons.mpr (.inr leads), shows⟩

/-- The path ends at the site of the frame or goes through one of the fields. -/
def FieldPath.LiesIn (frame : Frame) (fields : List FieldDeclaration) (path : FieldPath) : Prop :=
  frame.site.parents <+: path.site.parents ∧
    (path.site.path = frame.site.path ∨
      ∃ name ∈ fields.map (·.name), frame.site.path ++ [name] <+: path.site.path)

theorem FieldPath.LiesIn.cons {frame : Frame} {field : FieldDeclaration}
    {rest : List FieldDeclaration} {path : FieldPath} (lies : path.LiesIn frame rest) :
    path.LiesIn frame (field :: rest) :=
  lies.imp_right <| .imp_right fun ⟨name, member, below⟩ =>
    ⟨name, List.mem_cons_of_mem _ member, below⟩

/-- What lies inside an embedded field goes through it. -/
theorem FieldPath.LiesIn.beneath {frame : Frame} {field : FieldDeclaration} {inner : Overrides}
    {decl : ClassDeclaration} {vars : Variables} {fields : List FieldDeclaration}
    {path : FieldPath} (lies : path.LiesIn (frame.within field inner decl vars) fields) :
    frame.site.parents <+: path.site.parents ∧ frame.site.path ++ [field.name] <+: path.site.path := by
  obtain ⟨parents, site⟩ := lies
  refine ⟨(List.prefix_append _ _).trans parents, ?_⟩
  rcases site with same | ⟨name, _, below⟩
  · exact same ▸ List.prefix_rfl
  · exact (List.prefix_append _ _).trans below

theorem Walked.liesIn {metadata : Metadata} {frame : Frame} {fields : List FieldDeclaration}
    {vars after : Variables} {visits : List Visit}
    (walked : Walked metadata frame fields vars visits after) {path : FieldPath}
    {overrides : Option ColumnOptions} (visited : .leaf path overrides ∈ visits) :
    path.LiesIn frame fields := by
  induction walked with
  | done frame vars => simp at visited
  | dropped _ _ ih => exact (ih visited).cons
  | leaf stored plain others ih =>
    rcases List.mem_cons.mp visited with head | tail
    · cases head
      exact ⟨List.prefix_rfl, .inl rfl⟩
    · exact (ih tail).cons
  | unknown _ _ _ _ ih | cycle _ _ _ _ _ ih =>
    rcases List.mem_cons.mp visited with head | tail
    · cases head
    · exact (ih tail).cons
  | inside _ _ _ _ _ _ ihBody ihOthers =>
    rcases List.mem_append.mp visited with body | tail
    · obtain ⟨parents, through⟩ := (ihBody body).beneath
      exact ⟨parents, .inr ⟨_, List.mem_cons_self, through⟩⟩
    · exact (ihOthers tail).cons

/-- Two paths go the same way, variables included, as far as their embedded fields have the same
names. -/
def FieldPath.ShareWay (p q : FieldPath) : Prop :=
  ∀ way : List String, way <+: p.site.path → way <+: q.site.path →
    p.site.parents.take way.length = q.site.parents.take way.length

theorem FieldPath.ShareWay.symm {p q : FieldPath} (shared : p.ShareWay q) : q.ShareWay p :=
  fun way wayQ wayP => (shared way wayP wayQ).symm

/-- Paths that part at the site of a frame share the way to it. -/
theorem FieldPath.shareWay_of_parting {frame : Frame} {p q : FieldPath}
    (counted : frame.site.parents.length = frame.site.path.length)
    (parentsP : frame.site.parents <+: p.site.parents)
    (parentsQ : frame.site.parents <+: q.site.parents)
    (parting : ∀ way : List String, way <+: p.site.path → way <+: q.site.path →
      way.length ≤ frame.site.path.length) : p.ShareWay q := by
  intro way wayP wayQ
  have short := counted ▸ parting way wayP wayQ
  obtain ⟨belowP, appendP⟩ := parentsP
  obtain ⟨belowQ, appendQ⟩ := parentsQ
  rw [← appendP, ← appendQ, List.take_append_of_le_length short,
    List.take_append_of_le_length short]

/-- What goes through a field parts from what lies among fields of other names. -/
theorem FieldPath.LiesIn.parting {frame : Frame} {rest : List FieldDeclaration} {name : String}
    {p q : FieldPath} (through : frame.site.path ++ [name] <+: p.site.path)
    (lies : q.LiesIn frame rest) (fresh : name ∉ rest.map (·.name)) {way : List String}
    (wayP : way <+: p.site.path) (wayQ : way <+: q.site.path) :
    way.length ≤ frame.site.path.length := by
  by_contra long
  have reach (other : String) : (frame.site.path ++ [other]).length ≤ way.length := by
    simp only [List.length_append, List.length_singleton]
    omega
  have wayThrough := List.prefix_of_prefix_length_le through wayP (reach name)
  rcases lies.2 with same | ⟨other, member, below⟩
  · have bound := (same ▸ wayQ).length_le
    omega
  · have wayOther := List.prefix_of_prefix_length_le below wayQ (reach other)
    have same := (List.prefix_of_prefix_length_le wayThrough wayOther (by simp)).eq_of_length
      (by simp)
    have named : name = other := by simpa using same
    exact fresh (named ▸ member)

/-- Where fields of a class differ by name, any two leaves of a walk share their common way. -/
theorem Walked.shareWay {metadata : Metadata} {frame : Frame} {fields : List FieldDeclaration}
    {vars after : Variables} {visits : List Visit} (classes : metadata.DistinctFields)
    (walked : Walked metadata frame fields vars visits after)
    (distinct : (fields.map (·.name)).Nodup)
    (counted : frame.site.parents.length = frame.site.path.length) {p q : FieldPath}
    {a b : Option ColumnOptions} (visitedP : .leaf p a ∈ visits) (visitedQ : .leaf q b ∈ visits) :
    p.ShareWay q := by
  induction walked with
  | done frame vars => simp at visitedP
  | dropped _ _ ih => exact ih (List.nodup_cons.mp distinct).2 counted visitedP visitedQ
  | @leaf frame field rest _ _ visits stored plain others ih =>
    have atSite {other : FieldPath} (lies : other.LiesIn frame (field :: rest)) :
        FieldPath.ShareWay ⟨frame.site, field⟩ other :=
      FieldPath.shareWay_of_parting counted List.prefix_rfl lies.1
        fun way wayPath _ => wayPath.length_le
    rcases List.mem_cons.mp visitedP with headP | tailP
    · cases headP
      exact atSite ((Walked.leaf stored plain others).liesIn visitedQ)
    · rcases List.mem_cons.mp visitedQ with headQ | tailQ
      · cases headQ
        exact (atSite (others.liesIn tailP).cons).symm
      · exact ih (List.nodup_cons.mp distinct).2 counted tailP tailQ
  | unknown _ _ _ _ ih | cycle _ _ _ _ _ ih =>
    rcases List.mem_cons.mp visitedP with headP | tailP
    · cases headP
    · rcases List.mem_cons.mp visitedQ with headQ | tailQ
      · cases headQ
      · exact ih (List.nodup_cons.mp distinct).2 counted tailP tailQ
  | @inside frame field rest inner decl _ _ _ nested visits _ _ declared _ body others ihBody
      ihOthers =>
    obtain ⟨fresh, otherNames⟩ := List.nodup_cons.mp distinct
    have parts {within other : FieldPath} {c d : Option ColumnOptions}
        (insideField : Visit.leaf within c ∈ nested) (inOthers : Visit.leaf other d ∈ visits) :
        within.ShareWay other := by
      obtain ⟨parents, through⟩ := (body.liesIn insideField).beneath
      have lies := others.liesIn inOthers
      exact FieldPath.shareWay_of_parting counted parents lies.1
        fun way => FieldPath.LiesIn.parting through lies fresh
    rcases List.mem_append.mp visitedP with bodyP | tailP
    · rcases List.mem_append.mp visitedQ with bodyQ | tailQ
      · exact ihBody (classes decl (Metadata.class?_mem declared).1)
          (by simp [Frame.within, Frame.embed, Site.inside, counted]) bodyP bodyQ
      · exact parts bodyP tailQ
    · rcases List.mem_append.mp visitedQ with bodyQ | tailQ
      · exact (parts bodyQ tailP).symm
      · exact ihOthers otherNames counted tailP tailQ

end EntityMapper
