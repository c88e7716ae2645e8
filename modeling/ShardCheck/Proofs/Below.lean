import Mathlib.Data.List.DropRight
import Mathlib.Tactic.Common
import ShardCheck.Naming
import ShardCheck.Proofs.Path

/-!
# Paths below a base

A path lies below a base if its components are those of the base and some names. However both are
spelled, the base can be taken off the path, and what is left has exactly these names.
-/

namespace ShardCheck

namespace Path

/-- The path goes on from a base by names, of which each is a component. -/
def IsBelow (base path : String) (names : List String) : Prop :=
  components path = components base ++ names.map .normal

instance (base path : String) (names : List String) : Decidable (IsBelow base path names) :=
  inferInstanceAs (Decidable (_ = _))

lemma isBelow_joinAll (base : String) {names : List String}
    (h : ∀ name ∈ names, IsFileName name) : IsBelow base (joinAll base names) names :=
  components_joinAll base h

/-! ### The names of segments -/

/-- The names among the components that some segments stand for. -/
def namesIn (ss : List String) : List String :=
  ((ss.filter isName).map Component.ofSegment).filterMap Component.name?

/-- The start of a path has no name, and leaves all names to the segments after it. -/
lemma namesIn_startOf (ss : List String) :
    (startOf ss).1.toList.filterMap Component.name? = [] ∧ namesIn (startOf ss).2 = namesIn ss := by
  cases ss with
  | nil => exact ⟨rfl, rfl⟩
  | cons s ss =>
    rw [startOf]
    split
    · rename_i h
      rw [Bool.and_eq_true, beq_iff_eq] at h
      exact ⟨rfl, by rw [h.1]; rfl⟩
    · split
      · rename_i h
        exact ⟨rfl, by rw [beq_iff_eq.1 h]; rfl⟩
      · exact ⟨rfl, rfl⟩

/-- The names of a path are those of its segments. -/
lemma names_eq (p : String) : names p = namesIn (segments p) := by
  obtain ⟨hfirst, hrest⟩ := namesIn_startOf (segments p)
  rw [names, components, List.filterMap_append, start_eq, hfirst, List.nil_append]
  exact hrest

/-! ### Segments without a slash -/

lemma notMem_of_mem_segmentsOf {s t : List Char} (h : t ∈ segmentsOf s) : '/' ∉ t := by
  induction s generalizing t with
  | nil => simp_all [segmentsOf]
  | cons c r ih =>
    rw [segmentsOf] at h
    split at h
    · rcases List.mem_cons.1 h with rfl | h
      · exact List.not_mem_nil
      · exact ih h
    · rename_i hc
      cases hr : segmentsOf r with
      | nil => exact absurd hr (segmentsOf_ne_nil r)
      | cons u us =>
        rw [hr] at h ih
        rcases List.mem_cons.1 h with rfl | h
        · have hu := ih List.mem_cons_self
          rintro (_ | ⟨_, hslash⟩)
          · exact hc rfl
          · exact hu hslash
        · exact ih (List.mem_cons_of_mem _ h)

lemma notMem_of_mem_segments {p s : String} (h : s ∈ segments p) : '/' ∉ s.toList := by
  obtain ⟨t, ht, rfl⟩ := List.mem_map.1 h
  rw [String.toList_ofList]
  exact notMem_of_mem_segmentsOf ht

lemma segmentsOf_joinSegments {ss : List (List Char)} (h : ∀ s ∈ ss, '/' ∉ s) (hne : ss ≠ []) :
    segmentsOf (joinSegments ss) = ss := by
  induction ss with
  | nil => exact absurd rfl hne
  | cons s ss ih =>
    obtain ⟨hs, hss⟩ := List.forall_mem_cons.1 h
    cases ss with
    | nil => rw [joinSegments, segmentsOf_of_notMem hs]
    | cons t ts =>
      rw [joinSegments, segmentsOf_append_slash, segmentsOf_of_notMem hs,
        ih hss (List.cons_ne_nil t ts), List.singleton_append]
      exact List.cons_ne_nil t ts

/-- A text of segments has their names. -/
lemma namesIn_segments_ofSegments {ss : List String} (h : ∀ s ∈ ss, '/' ∉ s.toList) :
    namesIn (segments (ofSegments ss)) = namesIn ss := by
  rcases eq_or_ne ss [] with rfl | hne
  · rfl
  rw [ofSegments, segments, String.toList_ofList, segmentsOf_joinSegments ?_ (by simpa using hne)]
  · simp
  · simpa using h

/-! ### Taking the base off -/

lemma dropNames_suffix (n : Nat) (ss : List String) : dropNames n ss <:+ ss := by
  induction ss generalizing n with
  | nil => cases n <;> simp [dropNames]
  | cons s ss ih =>
    cases n with
    | zero => exact List.dropWhile_suffix _
    | succ n =>
      rw [dropNames]
      split
      · exact (ih n).trans (List.suffix_cons s ss)
      · exact (ih (n + 1)).trans (List.suffix_cons s ss)

lemma filter_dropWhile_isName (ss : List String) :
    (ss.dropWhile (!isName ·)).filter isName = ss.filter isName := by
  induction ss with
  | nil => rfl
  | cons s ss ih => cases h : isName s <;> simp [h, ih]

lemma filter_trimEnd (ss : List String) : (trimEnd ss).filter isName = ss.filter isName := by
  rw [trimEnd, List.filter_reverse, filter_dropWhile_isName, ← List.filter_reverse,
    List.reverse_reverse]

lemma filter_dropNames (n : Nat) (ss : List String) :
    (dropNames n ss).filter isName = (ss.filter isName).drop n := by
  induction ss generalizing n with
  | nil => cases n <;> simp [dropNames]
  | cons s ss ih =>
    cases n with
    | zero => rw [dropNames, filter_dropWhile_isName, List.drop_zero]
    | succ n =>
      rw [dropNames]
      cases h : isName s <;> simp [h, ih]

lemma startOf_suffix (ss : List String) : (startOf ss).2 <:+ ss := by
  cases ss with
  | nil => exact List.suffix_refl []
  | cons s ss =>
    rw [startOf]
    split
    · exact List.suffix_cons s ss
    · split
      · exact List.suffix_cons s ss
      · exact List.suffix_refl _

lemma namesIn_trimEnd (ss : List String) : namesIn (trimEnd ss) = namesIn ss := by
  rw [namesIn, filter_trimEnd, namesIn]

lemma names_ofSegments_trimEnd {ss : List String} (h : ∀ s ∈ ss, '/' ∉ s.toList) :
    names (ofSegments (trimEnd ss)) = namesIn ss := by
  have htrim : ∀ s ∈ trimEnd ss, '/' ∉ s.toList := fun s hs =>
    h s ((List.rdropWhile_prefix _ _).subset hs)
  rw [names_eq, namesIn_segments_ofSegments htrim, namesIn_trimEnd]

lemma names_slash_append (p : String) : names ("/" ++ p) = names p := by
  have hsegments : segments ("/" ++ p) = "" :: segments p := segments_append_slash "" p
  rw [names_eq, hsegments, names_eq]
  rfl

lemma names_ofSegments_point {ss : List String} (h : ∀ s ∈ ss, '/' ∉ s.toList) :
    names (ofSegments ("." :: trimEnd ss)) = namesIn ss := by
  have hpoint : ∀ s ∈ "." :: trimEnd ss, '/' ∉ s.toList := by
    intro s hs
    rcases List.mem_cons.1 hs with rfl | hs
    · decide
    · exact h s ((List.rdropWhile_prefix _ _).subset hs)
  rw [names_eq, namesIn_segments_ofSegments hpoint]
  exact namesIn_trimEnd ss

/-- The first component of a path is not a name, and no segment behind it has a slash. -/
lemma of_start_eq {p : String} {first : Option Component} {ss : List String}
    (h : start p = (first, ss)) :
    first.toList.filterMap Component.name? = [] ∧ ∀ s ∈ ss, '/' ∉ s.toList := by
  rw [start_eq] at h
  have hfirst := (namesIn_startOf (segments p)).1
  have hsuffix := startOf_suffix (segments p)
  rw [h] at hfirst hsuffix
  exact ⟨hfirst, fun s hs => notMem_of_mem_segments (hsuffix.subset hs)⟩

/-- Dropping components of a path drops their names. -/
lemma names_dropComponents (p : String) (n : Nat) :
    names (dropComponents p n) = ((components p).drop n).filterMap Component.name? := by
  rcases hstart : start p with ⟨first, ss⟩
  obtain ⟨hfirst, hslash⟩ := of_start_eq hstart
  have hdrop : ∀ m, names (ofSegments (trimEnd (dropNames m ss))) =
      (((ss.filter isName).map Component.ofSegment).drop m).filterMap Component.name? := by
    intro m
    rw [names_ofSegments_trimEnd fun s hs => hslash s ((dropNames_suffix m ss).subset hs),
      namesIn, filter_dropNames, List.map_drop]
  rw [dropComponents, components, hstart]
  cases n with
  | zero =>
    rw [List.drop_zero, List.filterMap_append, hfirst, List.nil_append]
    cases first with
    | none => exact names_ofSegments_trimEnd hslash
    | some c =>
      cases c with
      | root => exact (names_slash_append _).trans (names_ofSegments_trimEnd hslash)
      | current => exact names_ofSegments_point hslash
      | parent => exact names_ofSegments_point hslash
      | normal name => exact names_ofSegments_point hslash
  | succ n =>
    cases first with
    | none => exact hdrop (n + 1)
    | some c => exact hdrop n

/-- What is left of a path below a base are the names by which it goes on. -/
lemma names_strip?_of_isBelow {base path : String} {ns : List String} (h : IsBelow base path ns) :
    (strip? base path).map names = some ns := by
  rw [IsBelow] at h
  have hstarts : (components base).isPrefixOf (components path) = true := by
    rw [List.isPrefixOf_iff_prefix, h]
    exact List.prefix_append _ _
  rw [strip?, if_pos hstarts, Option.map_some, names_dropComponents, h, List.drop_left,
    List.filterMap_map]
  exact congrArg some List.filterMap_some

lemma fileName?_of_isBelow {base path : String} {ns : List String} (h : IsBelow base path ns)
    (hne : ns ≠ []) : fileName? path = ns.getLast? := by
  rw [fileName?, h, List.getLast?_append, List.getLast?_map, List.getLast?_eq_some_getLast hne]
  rfl

end Path

lemma FileInfo.namesUnder_of_isBelow {tree path : String} {names : List String}
    (h : Path.IsBelow tree path names) : namesUnder tree path = names := by
  have hnames := Path.names_strip?_of_isBelow h
  rw [Option.map_eq_some_iff] at hnames
  obtain ⟨rest, hstrip, hrest⟩ := hnames
  rw [namesUnder, hstrip, Option.getD_some, hrest]

end ShardCheck
