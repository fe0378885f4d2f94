import EntityMapper.Proofs.Text.Segments
import EntityMapper.Storage.Path

/-!
# Components of paths

Joining puts the components of two paths one after the other (`components_join`). The parent of a path
that names a file has its components but the last one (`components_parent?`) and begins at the root if
the path does (`isAbsolute_parent?`).
-/
namespace EntityMapper.Path

/-- A component as it stands. -/
structure IsComponent (part : String) : Prop where
  filled : part ≠ ""
  visible : part ≠ "."
  uncut : '/' ∉ part.toList

theorem components_of_isComponent {part : String} (component : IsComponent part) :
    components part = [part] := by
  rw [components, Text.segments_of_not_mem component.uncut]
  simp [component.filled, component.visible]

theorem isAbsolute_of_isComponent {part : String} (component : IsComponent part) :
    isAbsolute part = false := by
  rw [isAbsolute, beq_eq_false_iff_ne]
  exact fun first => component.uncut (List.mem_of_head? first)

theorem components_empty : components "" = [] := by decide

/-- Components on both sides of a separator count on their own. -/
theorem components_append_cons (before after : List Char) :
    components (String.ofList (before ++ '/' :: after)) =
      components (String.ofList before) ++ components (String.ofList after) := by
  rw [components, Text.segments_append_cons, List.filter_append]
  rfl

/-- A path after a base that ends with a separator, or after a separator of its own. -/
theorem components_append {base path : String} (ends : base.toList.getLast? = some '/') :
    components (base ++ path) = components base ++ components path := by
  obtain ⟨before, split⟩ := List.getLast?_eq_some_iff.mp ends
  have whole : base = String.ofList (before ++ ['/']) := by rw [← split, String.ofList_toList]
  have joined : base ++ path = String.ofList (before ++ '/' :: path.toList) := by
    apply String.toList_injective
    simp [split]
  rw [joined, whole, components_append_cons, components_append_cons, String.ofList_toList,
    String.ofList_nil, components_empty, List.append_nil]

/-- A joined path has the components of both. -/
theorem components_join {base path : String} (relative : isAbsolute path = false) :
    components (join base path) = components base ++ components path := by
  rw [join, relative, if_neg Bool.false_ne_true]
  by_cases empty : base = ""
  · simp [empty, components_empty]
  · by_cases ends : base.toList.getLast? = some '/'
    · rw [if_pos (by simp [ends]), components_append ends]
    · have parted : base ++ "/" ++ path = String.ofList (base.toList ++ '/' :: path.toList) := by
        apply String.toList_injective
        simp
      rw [if_neg (by simp [empty, ends]), parted, components_append_cons, String.ofList_toList,
        String.ofList_toList]

theorem isAbsolute_append {base : String} (filled : base ≠ "") (path : String) :
    isAbsolute (base ++ path) = isAbsolute base := by
  have inked : base.toList ≠ [] := by simpa using filled
  obtain ⟨first, rest, spelled⟩ := List.exists_cons_of_ne_nil inked
  simp [isAbsolute, spelled]

theorem isAbsolute_join {base path : String} (relative : isAbsolute path = false) :
    isAbsolute (join base path) = isAbsolute base := by
  rw [join, relative, if_neg Bool.false_ne_true]
  by_cases empty : base = ""
  · have nothing : isAbsolute "" = false := rfl
    simp [empty, nothing, relative]
  · split
    · exact isAbsolute_append empty path
    · rw [String.append_assoc, isAbsolute_append empty]

/-- The names of all files below one directory stand behind the same components, and their paths are
either all absolute or all relative. -/
theorem exists_components_join (output directory : String) :
    ∃ base absolute, ∀ name, IsComponent name →
      isAbsolute (join output (join directory name)) = absolute ∧
        components (join output (join directory name)) = base ++ [name] := by
  by_cases rooted : isAbsolute directory = true
  · refine ⟨components directory, true, fun name named => ?_⟩
    have single := isAbsolute_of_isComponent named
    have alone : join output (join directory name) = join directory name := by
      rw [join, isAbsolute_join single, if_pos rooted]
    rw [alone, isAbsolute_join single, components_join single, components_of_isComponent named]
    exact ⟨rooted, rfl⟩
  · refine ⟨components output ++ components directory, isAbsolute output, fun name named => ?_⟩
    have single := isAbsolute_of_isComponent named
    have relative : isAbsolute (join directory name) = false := by
      rw [isAbsolute_join single]
      exact Bool.not_eq_true _ ▸ rooted
    rw [isAbsolute_join relative, components_join relative, components_join single,
      components_of_isComponent named, List.append_assoc]
    exact ⟨rfl, rfl⟩

theorem isAbsolute_foldl_join {parts : List String} (named : ∀ part ∈ parts, IsComponent part)
    (base : String) : isAbsolute (parts.foldl join base) = isAbsolute base := by
  induction parts generalizing base with
  | nil => rfl
  | cons part rest ih =>
    obtain ⟨first, others⟩ := List.forall_mem_cons.mp named
    rw [List.foldl_cons, ih others, isAbsolute_join (isAbsolute_of_isComponent first)]

/-- Components that are joined one after the other are the last ones of the path. -/
theorem components_foldl_join {parts : List String} (named : ∀ part ∈ parts, IsComponent part)
    (base : String) : components (parts.foldl join base) = components base ++ parts := by
  induction parts generalizing base with
  | nil => simp
  | cons part rest ih =>
    obtain ⟨first, others⟩ := List.forall_mem_cons.mp named
    rw [List.foldl_cons, ih others, components_join (isAbsolute_of_isComponent first),
      components_of_isComponent first, List.append_assoc, List.singleton_append]

/-- Components that are joined one after the other are all that stands between the separators. -/
theorem segments_foldl_join {parts : List String} (filled : parts ≠ [])
    (named : ∀ part ∈ parts, IsComponent part) :
    Text.segments '/' (parts.foldl join "") = parts := by
  have grown (base : String) (filled : base ≠ "") (opened : base.toList.getLast? ≠ some '/')
      {parts : List String} (named : ∀ part ∈ parts, IsComponent part) :
      Text.segments '/' (parts.foldl join base) = Text.segments '/' base ++ parts := by
    induction parts generalizing base with
    | nil => simp
    | cons part rest ih =>
      obtain ⟨own, others⟩ := List.forall_mem_cons.mp named
      have inked : part.toList ≠ [] := by simpa using own.filled
      have joined : join base part = String.ofList (base.toList ++ '/' :: part.toList) := by
        apply String.toList_injective
        simp [join, isAbsolute_of_isComponent own, filled, opened]
      have last : (join base part).toList.getLast? = part.toList.getLast? := by
        rw [joined, String.toList_ofList, ← List.singleton_append, ← List.append_assoc,
          List.getLast?_append_of_ne_nil _ inked]
      rw [List.foldl_cons, ih (join base part) (by simp [joined])
        (fun ended => own.uncut (List.mem_of_getLast? (last ▸ ended))) others, joined,
        Text.segments_append_cons, String.ofList_toList, String.ofList_toList,
        Text.segments_of_not_mem own.uncut, List.append_assoc, List.singleton_append]
  obtain ⟨first, rest, rfl⟩ := List.exists_cons_of_ne_nil filled
  obtain ⟨own, others⟩ := List.forall_mem_cons.mp named
  have begun : join "" first = first := by
    simp [join, isAbsolute_of_isComponent own]
  rw [List.foldl_cons, begun,
    grown first own.filled (fun ended => own.uncut (List.mem_of_getLast? ended)) others,
    Text.segments_of_not_mem own.uncut, List.singleton_append]

/-- What is trimmed off a path are no components. -/
theorem components_trimEnd (cs : List Char) :
    components (String.ofList (trimEnd cs).reverse) = components (String.ofList cs.reverse) := by
  have point : components "." = [] := by decide
  fun_induction trimEnd cs with
  | case1 rest last =>
    rw [List.isEmpty_iff.mp last]
  | case2 rest more ih =>
    rw [ih, List.reverse_cons, components_append_cons, String.ofList_nil, components_empty,
      List.append_nil]
  | case3 rest last =>
    rw [List.isEmpty_iff.mp last]
    decide
  | case4 rest more ih =>
    rw [ih, List.reverse_cons, List.reverse_cons, List.append_assoc, List.singleton_append,
      components_append_cons]
    simpa using point
  | case5 cs notMark notPoint => rfl

/-- The separator that a path begins with is left. -/
theorem getLast?_trimEnd (cs : List Char) : (trimEnd cs).getLast? = cs.getLast? := by
  fun_induction trimEnd cs with
  | case1 rest last => simp [List.isEmpty_iff.mp last]
  | case2 rest more ih =>
    obtain ⟨first, others, rfl⟩ := List.exists_cons_of_ne_nil (List.isEmpty_iff.not.mp more)
    rw [ih, List.getLast?_cons_cons]
  | case3 rest last => simp [List.isEmpty_iff.mp last]
  | case4 rest more ih =>
    obtain ⟨first, others, rfl⟩ := List.exists_cons_of_ne_nil (List.isEmpty_iff.not.mp more)
    rw [ih, List.getLast?_cons_cons, List.getLast?_cons_cons]
  | case5 cs notMark notPoint => rfl

/-- Nothing is trimmed off where a name stands at the end. -/
theorem trimEnd_append {name : List Char} (rest : List Char) (filled : name ≠ [])
    (visible : name ≠ ['.']) (uncut : '/' ∉ name) : trimEnd (name ++ rest) = name ++ rest := by
  obtain ⟨first, more, rfl⟩ := List.exists_cons_of_ne_nil filled
  have letter : first ≠ '/' := fun same => uncut (same ▸ List.mem_cons_self)
  cases more with
  | nil =>
    have plain : first ≠ '.' := fun same => visible (same ▸ rfl)
    unfold trimEnd
    split <;> simp_all
  | cons second more =>
    have next : second ≠ '/' := fun same =>
      uncut (same ▸ List.mem_cons_of_mem _ List.mem_cons_self)
    unfold trimEnd
    split <;> simp_all

/-- The last segment of a path and what stands before it. -/
theorem exists_last (path : String) :
    ∃ base last, path = base ++ last ∧ '/' ∉ last.toList ∧
      (base = "" ∨ base.toList.getLast? = some '/') ∧
      (Text.segments '/' path).getLast? = some last := by
  by_cases cut : '/' ∈ path.toList
  · obtain ⟨joined, uncut⟩ := Text.append_afterLast cut
    have single : Text.segments '/' (String.ofList (Text.afterLast '/' path.toList)) =
        [String.ofList (Text.afterLast '/' path.toList)] :=
      Text.segments_of_not_mem (by simpa using uncut)
    have parts : Text.segments '/' path = Text.segments '/'
        (String.ofList (Text.beforeLast '/' path.toList)) ++
          [String.ofList (Text.afterLast '/' path.toList)] := by
      rw [← single, ← Text.segments_append_cons, joined, String.ofList_toList]
    refine ⟨String.ofList (Text.beforeLast '/' path.toList ++ ['/']),
      String.ofList (Text.afterLast '/' path.toList), ?_, by simpa using uncut, .inr (by simp),
      by rw [parts, List.getLast?_concat]⟩
    rw [← String.ofList_append, List.append_assoc, List.singleton_append, joined,
      String.ofList_toList]
  · exact ⟨"", path, by simp, cut, .inl rfl, by simp [Text.segments_of_not_mem cut]⟩

/-- The parent of a path is what stands before its last name, trimmed. -/
theorem parent?_eq {path : String} {name rest : List Char}
    (reversed : path.toList.reverse = name ++ rest) (filled : name ≠ []) (visible : name ≠ ['.'])
    (uncut : '/' ∉ name) (parted : rest = [] ∨ rest.head? = some '/') :
    parent? path = some (String.ofList (trimEnd rest).reverse) := by
  have passed : ∀ c ∈ name, (c != '/') = true := fun c member =>
    bne_iff_ne.mpr fun same => uncut (same ▸ member)
  have skipped : name.dropWhile (· != '/') = [] := List.dropWhile_eq_nil_iff.mpr passed
  have kept : rest.dropWhile (· != '/') = rest := by
    rcases parted with rfl | mark
    · rfl
    · obtain ⟨below, rfl⟩ := List.head?_eq_some_iff.mp mark
      simp
  rw [parent?, reversed, trimEnd_append rest filled visible uncut]
  split
  · rename_i empty
    exact absurd (List.append_eq_nil_iff.mp empty).1 filled
  · rename_i root
    obtain ⟨first, more, rfl⟩ := List.exists_cons_of_ne_nil filled
    exact absurd (List.cons.inj root).1 (bne_iff_ne.mp (passed first List.mem_cons_self))
  · rw [List.dropWhile_append, skipped, List.isEmpty_nil, if_pos rfl, kept]

/-- A path that names a file ends with the name, and its parent is what stands before it, trimmed. -/
theorem exists_name {path : String} (file : namesDirectory path = false) :
    ∃ base name, path = base ++ name ∧ IsComponent name ∧
      (base = "" ∨ base.toList.getLast? = some '/') ∧
      parent? path = some (String.ofList (trimEnd base.toList.reverse).reverse) := by
  obtain ⟨base, name, rfl, uncut, parted, ends⟩ := exists_last path
  simp only [namesDirectory, ends, Bool.or_eq_false_iff, decide_eq_false_iff_not] at file
  obtain ⟨⟨filled, visible⟩, _⟩ := file
  have nonempty : name.toList.reverse ≠ [] := by simpa using filled
  have noPoint : name.toList.reverse ≠ ['.'] := by
    intro point
    apply visible
    rw [← String.ofList_toList (s := name), List.reverse_eq_iff.mp point]
    rfl
  have reversed : (base ++ name).toList.reverse = name.toList.reverse ++ base.toList.reverse := by
    simp
  refine ⟨base, name, rfl, ⟨filled, visible, uncut⟩, parted,
    parent?_eq reversed nonempty noPoint (by simpa using uncut) ?_⟩
  rcases parted with rfl | ended
  · exact .inl rfl
  · exact .inr (by rw [List.head?_reverse, ended])

/-- The parent of a path that names a file has its components but the last one. -/
theorem components_parent? {path parent : String} (file : namesDirectory path = false)
    (above : parent? path = some parent) :
    ∃ last, components path = components parent ++ [last] := by
  obtain ⟨base, name, rfl, named, parted, found⟩ := exists_name file
  cases found.symm.trans above
  refine ⟨name, ?_⟩
  have single := components_of_isComponent named
  rw [components_trimEnd, List.reverse_reverse, String.ofList_toList]
  rcases parted with rfl | ended
  · rw [String.empty_append, single, components_empty, List.nil_append]
  · rw [components_append ended, single]

/-- A path that names a file begins at the root exactly if its parent does. -/
theorem isAbsolute_parent? {path parent : String} (file : namesDirectory path = false)
    (above : parent? path = some parent) : isAbsolute path = isAbsolute parent := by
  obtain ⟨base, name, rfl, named, parted, found⟩ := exists_name file
  cases found.symm.trans above
  by_cases empty : base = ""
  · subst empty
    exact (String.empty_append (s := name)).symm ▸ isAbsolute_of_isComponent named
  · rw [isAbsolute_append empty, isAbsolute, isAbsolute, String.toList_ofList, List.head?_reverse,
      getLast?_trimEnd, List.getLast?_reverse]

end EntityMapper.Path
